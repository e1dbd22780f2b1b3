import Provisioning.Proofs.Message.Sole

/-!
# What a message asks for

A tag is computed from the candidates of a row, and it names the verb and the kind of a command
only if there is one of each. Here the same is said by counting: which parts a message has, which
bodies its command has, and for which kinds of objects a body is filled. A message has a purpose if
each count is one, and `purpose_tag` says that the tag leads to the same purpose.
-/

namespace Provisioning

/-! ## The only one of a row -/

section Row

variable {ι α : Type} {fallback : α} {candidate : ι → Option α} {taken : ι → Bool} {row : List ι}

/-- The candidates of a row are those of the places that are taken. -/
theorem reduceOption_map (fallback : α) (h : ∀ i, (candidate i).isSome = taken i) :
    (row.map candidate).reduceOption =
      (row.filter taken).map fun i => (candidate i).getD fallback := by
  induction row with
  | nil => rfl
  | cons i row ih =>
      rw [List.map_cons, List.filter_cons, ← h]
      cases hi : candidate i with
      | none => simpa using ih
      | some x => simp [ih, hi]

/-- If one place only is taken, it has a candidate, and that is the only one. -/
theorem soleOr_of_taken (h : ∀ i, (candidate i).isSome = taken i) {i : ι}
    (hrow : row.filter taken = [i]) :
    ∃ x, candidate i = some x ∧ soleOr fallback (row.map candidate) = x := by
  have hi : i ∈ row.filter taken := hrow ▸ List.mem_singleton_self i
  obtain ⟨x, hx⟩ := Option.isSome_iff_exists.mp ((h i).trans (List.mem_filter.mp hi).2)
  refine ⟨x, hx, ?_⟩
  rw [soleOr, reduceOption_map fallback h, hrow, List.map_singleton, hx]
  rfl

/-- If no place is taken, or several are, no candidate is the only one. -/
theorem soleOr_of_not_taken (h : ∀ i, (candidate i).isSome = taken i)
    (hrow : ∀ i, row.filter taken ≠ [i]) : soleOr fallback (row.map candidate) = fallback := by
  rw [soleOr, reduceOption_map fallback h]
  rcases hfilter : row.filter taken with _ | ⟨i, _ | ⟨j, rest⟩⟩
  · rfl
  · exact absurd hfilter (hrow i)
  · rfl

end Row

/-- The kinds that are there, in order. -/
def ObjectKind.among (domain host contact : Bool) : List ObjectKind :=
  all.filter fun
    | .domain => domain
    | .host => host
    | .contact => contact

/-! ## Commands -/

def Check.kinds (x : Check) : List ObjectKind :=
  ObjectKind.among x.domain.isSome x.host.isSome x.contact.isSome

def Create.kinds (x : Create) : List ObjectKind :=
  ObjectKind.among x.domain.isSome x.host.isSome x.contact.isSome

def Delete.kinds (x : Delete) : List ObjectKind :=
  ObjectKind.among x.domain.isSome x.host.isSome x.contact.isSome

def Info.kinds (x : Info) : List ObjectKind :=
  ObjectKind.among x.domain.isSome x.host.isSome x.contact.isSome

def Update.kinds (x : Update) : List ObjectKind :=
  ObjectKind.among x.domain.isSome x.host.isSome x.contact.isSome

/-- Domains only are renewed. -/
def Renew.kinds (x : Renew) : List ObjectKind := ObjectKind.among x.domain.isSome false false

/-- Hosts are not transferred. -/
def Transfer.kinds (x : Transfer) : List ObjectKind :=
  ObjectKind.among x.domain.isSome false x.contact.isSome

namespace Command

/-- The bodies that a command has a place for. -/
inductive Verb where
  | login
  | check
  | create
  | info
  | delete
  | update
  | transfer
  | renew
  | logout
  | poll
  deriving DecidableEq

namespace Verb

/-- The verbs in the order in which they are looked for. -/
def all : List Verb :=
  [.login, .check, .create, .info, .delete, .update, .transfer, .renew, .logout, .poll]

/-- The verb is about no object. -/
def isPlain : Verb → Bool
  | .login | .logout | .poll => true
  | _ => false

end Verb

/-- Whether the body of a verb is there. -/
def has (c : Command) : Verb → Bool
  | .login => c.login.isSome
  | .check => c.check.isSome
  | .create => c.create.isSome
  | .info => c.info.isSome
  | .delete => c.delete.isSome
  | .update => c.update.isSome
  | .transfer => c.transfer.isSome
  | .renew => c.renew.isSome
  | .logout => c.logout
  | .poll => c.poll.isSome

/-- The verbs whose bodies are there. -/
def verbs (c : Command) : List Verb := Verb.all.filter c.has

/-- The kinds of objects for which the body of a verb is filled. -/
def kinds (c : Command) : Verb → List ObjectKind
  | .check => (c.check.map (·.kinds)).getD []
  | .create => (c.create.map (·.kinds)).getD []
  | .info => (c.info.map (·.kinds)).getD []
  | .delete => (c.delete.map (·.kinds)).getD []
  | .update => (c.update.map (·.kinds)).getD []
  | .transfer => (c.transfer.map (·.kinds)).getD []
  | .renew => (c.renew.map (·.kinds)).getD []
  | .login | .logout | .poll => []

end Command

open Command (Verb)

/-- What a message asks for. -/
inductive Purpose where
  | greeting
  /-- A verb that is about no object. -/
  | plain (v : Verb)
  | about (v : Verb) (k : ObjectKind)
  /-- It does not ask for one thing. -/
  | unclear
  deriving DecidableEq

namespace Purpose

/-- The purpose of a verb whose body is filled for the kinds. -/
def ofKinds (v : Verb) : List ObjectKind → Purpose
  | [k] => .about v k
  | _ => .unclear

/-- The purpose of a verb whose kind is known or not. -/
def ofKind? (v : Verb) : Option ObjectKind → Purpose
  | some k => .about v k
  | none => .unclear

theorem ofKind?_soleKind (v : Verb) (domain host contact : Bool) :
    ofKind? v (soleKind domain host contact) =
      ofKinds v (ObjectKind.among domain host contact) := by
  cases domain <;> cases host <;> cases contact <;> rfl

theorem ofKind?_step? (v : Verb) (x : Transfer) :
    ofKind? v (x.step?.map (·.1)) = ofKinds v x.kinds := by
  unfold Transfer.step? Transfer.kinds
  cases x.domain <;> cases x.contact <;> rfl

theorem ofKind?_renew (v : Verb) (x : Renew) : ofKind? v x.kind? = ofKinds v x.kinds := by
  unfold Renew.kind? Renew.kinds
  cases x.domain <;> rfl

theorem ofKinds_eq_about {v w : Verb} {k : ObjectKind} {ks : List ObjectKind} :
    ofKinds w ks = .about v k ↔ w = v ∧ ks = [k] := by
  unfold ofKinds
  split
  · simp
  · rename_i hne
    constructor
    · intro h; exact absurd h (by simp)
    · rintro ⟨-, h⟩; exact absurd h (hne k)

theorem ofKinds_ne_plain {v w : Verb} {ks : List ObjectKind} : ofKinds w ks ≠ .plain v := by
  unfold ofKinds
  split <;> simp

theorem ofKinds_ne_greeting {w : Verb} {ks : List ObjectKind} : ofKinds w ks ≠ .greeting := by
  unfold ofKinds
  split <;> simp

end Purpose

/-- The purpose of a command, by its tag. -/
def CommandTag.purpose : CommandTag → Purpose
  | .unclassified => .unclear
  | .login => .plain .login
  | .logout => .plain .logout
  | .poll => .plain .poll
  | .check kind => .ofKind? .check kind
  | .create kind => .ofKind? .create kind
  | .delete kind => .ofKind? .delete kind
  | .info kind => .ofKind? .info kind
  | .update kind => .ofKind? .update kind
  | .renew kind => .ofKind? .renew kind
  | .transfer step => .ofKind? .transfer (step.map (·.1))

namespace Command

/-- The purpose of a verb in a command. -/
def purposeOf (c : Command) (v : Verb) : Purpose :=
  if v.isPlain then .plain v else .ofKinds v (c.kinds v)

/-- The purpose of a command is that of its only verb. -/
def purpose (c : Command) : Purpose :=
  match c.verbs with
  | [v] => c.purposeOf v
  | _ => .unclear

/-- The tag of the body of a verb. -/
def tagOf? (c : Command) : Verb → Option CommandTag
  | .login => c.login.map fun _ => .login
  | .check => c.check.map fun x => .check x.kind?
  | .create => c.create.map fun x => .create x.kind?
  | .info => c.info.map fun x => .info x.kind?
  | .delete => c.delete.map fun x => .delete x.kind?
  | .update => c.update.map fun x => .update x.kind?
  | .transfer => c.transfer.map fun x => .transfer x.step?
  | .renew => c.renew.map fun x => .renew x.kind?
  | .logout => if c.logout then some .logout else none
  | .poll => c.poll.map fun _ => .poll

theorem isSome_tagOf? (c : Command) (v : Verb) : (c.tagOf? v).isSome = c.has v := by
  cases v with
  | logout => unfold tagOf? has; cases c.logout <;> rfl
  | _ => exact Option.isSome_map

theorem purpose_of_tagOf? {c : Command} {v : Verb} {t : CommandTag} (h : c.tagOf? v = some t) :
    t.purpose = c.purposeOf v := by
  cases v with
  | login | poll =>
      obtain ⟨x, -, rfl⟩ := Option.map_eq_some_iff.mp h
      rfl
  | logout =>
      have hlogout : (if c.logout then some CommandTag.logout else none) = some t := h
      rw [Option.ite_none_right_eq_some, Option.some.injEq] at hlogout
      rw [← hlogout.2]
      rfl
  | check | create | info | delete | update =>
      obtain ⟨x, hx, rfl⟩ := Option.map_eq_some_iff.mp h
      simp only [purposeOf, kinds, hx]
      exact Purpose.ofKind?_soleKind _ _ _ _
  | transfer =>
      obtain ⟨x, hx, rfl⟩ := Option.map_eq_some_iff.mp h
      simp only [purposeOf, kinds, hx]
      exact Purpose.ofKind?_step? _ x
  | renew =>
      obtain ⟨x, hx, rfl⟩ := Option.map_eq_some_iff.mp h
      simp only [purposeOf, kinds, hx]
      exact Purpose.ofKind?_renew _ x

/-- **The tag of a command leads to its purpose.** -/
theorem purpose_tag (c : Command) : c.tag.purpose = c.purpose := by
  have htag : c.tag = soleOr .unclassified (Verb.all.map c.tagOf?) := rfl
  rw [htag, purpose]
  split
  · rename_i v hverbs
    obtain ⟨t, ht, hsole⟩ := soleOr_of_taken c.isSome_tagOf? hverbs
    rw [hsole]
    exact purpose_of_tagOf? ht
  · rename_i hne
    rw [soleOr_of_not_taken c.isSome_tagOf? hne]
    rfl

theorem purpose_eq_plain {c : Command} {v : Verb} (hv : v.isPlain = true) :
    c.purpose = .plain v ↔ c.verbs = [v] := by
  unfold purpose
  split
  · rename_i w hverbs
    rw [hverbs, purposeOf, List.cons.injEq]
    split
    · simp
    · rename_i hw
      constructor
      · intro h; exact absurd h Purpose.ofKinds_ne_plain
      · rintro ⟨rfl, -⟩; exact absurd hv hw
  · rename_i hne
    constructor
    · intro h; exact absurd h (by simp)
    · intro h; exact absurd h (hne v)

theorem purpose_eq_about {c : Command} {v : Verb} {k : ObjectKind} :
    c.purpose = .about v k ↔ c.verbs = [v] ∧ c.kinds v = [k] := by
  unfold purpose
  split
  · rename_i w hverbs
    rw [hverbs, purposeOf]
    split
    · rename_i hw
      -- a verb about no object has no kinds
      have hkinds : c.kinds w = [] := by
        cases w with
        | login | logout | poll => rfl
        | _ => exact absurd hw (by decide)
      constructor
      · intro h; exact absurd h (by simp)
      · rintro ⟨h, hk⟩
        obtain rfl := (List.cons.inj h).1
        rw [hkinds] at hk
        exact absurd hk (by simp)
    · rw [Purpose.ofKinds_eq_about]
      constructor
      · rintro ⟨rfl, hk⟩; exact ⟨rfl, hk⟩
      · rintro ⟨h, hk⟩
        obtain rfl := (List.cons.inj h).1
        exact ⟨rfl, hk⟩
  · rename_i hne
    constructor
    · intro h; exact absurd h (by simp)
    · rintro ⟨h, -⟩; exact absurd h (hne v)

/-- No command asks for a greeting, and a verb that is about objects has a purpose only with one. -/
theorem purpose_ne {c : Command} :
    c.purpose ≠ .greeting ∧ ∀ v, v.isPlain = false → c.purpose ≠ .plain v := by
  unfold purpose purposeOf
  split
  · split
    · rename_i hw
      refine ⟨by simp, fun v hv h => ?_⟩
      obtain rfl := Purpose.plain.inj h
      exact absurd (hw.symm.trans hv) (by simp)
    · exact ⟨Purpose.ofKinds_ne_greeting, fun _ _ => Purpose.ofKinds_ne_plain⟩
  · simp

end Command

/-! ## Messages -/

/-- The purpose of a message, by its tag. -/
def Tag.purpose : Tag → Purpose
  | .hello => .greeting
  | .command t => t.purpose
  | _ => .unclear

namespace Envelope

/-- The parts that a message has a place for. -/
inductive Part where
  | command
  | greeting
  | hello
  | response
  deriving DecidableEq

/-- The parts in the order in which they are looked for. -/
def Part.all : List Part := [.command, .greeting, .hello, .response]

/-- Whether a part is there. -/
def has (e : Envelope) : Part → Bool
  | .command => e.command.isSome
  | .greeting => e.greeting.isSome
  | .hello => e.hello.isSome
  | .response => e.response.isSome

/-- The parts that are there. -/
def parts (e : Envelope) : List Part := Part.all.filter e.has

/-- The purpose of a message is that of its only part. -/
def purpose (e : Envelope) : Purpose :=
  match e.parts with
  | [.hello] => .greeting
  | [.command] => (e.command.map (·.purpose)).getD .unclear
  | _ => .unclear

/-- The message is only a command, and the command has only this body. -/
def Asks (e : Envelope) (v : Verb) : Prop :=
  e.parts = [.command] ∧ ∃ c, e.command = some c ∧ c.verbs = [v]

/-- The message is only a command, the command has only this body, and the body is filled for this
kind of objects only. -/
def AsksAbout (e : Envelope) (v : Verb) (k : ObjectKind) : Prop :=
  e.parts = [.command] ∧ ∃ c, e.command = some c ∧ c.verbs = [v] ∧ c.kinds v = [k]

/-- The message asks for a greeting, for something about no object, or for something about objects
of one kind. -/
def IsClear (e : Envelope) : Prop :=
  e.parts = [.hello] ∨ (∃ v, v.isPlain = true ∧ e.Asks v) ∨ ∃ v k, e.AsksAbout v k

/-- The tag of a part. -/
def tagOf? (e : Envelope) : Part → Option Tag
  | .command => e.command.map fun c => .command c.tag
  | .greeting => e.greeting.map fun _ => .greeting
  | .hello => e.hello.map fun _ => .hello
  | .response => e.response.map fun r => .response r.tag

theorem isSome_tagOf? (e : Envelope) (p : Part) : (e.tagOf? p).isSome = e.has p := by
  cases p <;> exact Option.isSome_map

/-- What is the only part of a message is there. -/
theorem exists_command {e : Envelope} (h : e.parts = [.command]) : ∃ c, e.command = some c := by
  have hcommand : Part.command ∈ e.parts := h ▸ List.mem_singleton_self _
  exact Option.isSome_iff_exists.mp (List.mem_filter.mp hcommand).2

/-- **The tag of a message leads to its purpose.** -/
theorem purpose_tag (e : Envelope) : e.tag.purpose = e.purpose := by
  have htag : e.tag = soleOr .unclassified (Part.all.map e.tagOf?) := rfl
  rw [htag]
  by_cases hsole : ∃ p, e.parts = [p]
  · obtain ⟨p, hparts⟩ := hsole
    obtain ⟨t, ht, htag⟩ := soleOr_of_taken e.isSome_tagOf? hparts
    rw [htag, purpose, hparts]
    cases p with
    | command =>
        obtain ⟨c, hc, rfl⟩ := Option.map_eq_some_iff.mp ht
        rw [hc]
        exact c.purpose_tag
    | greeting | hello | response =>
        obtain ⟨x, -, rfl⟩ := Option.map_eq_some_iff.mp ht
        rfl
  · have hne (p : Part) : e.parts ≠ [p] := fun h => hsole ⟨p, h⟩
    rw [soleOr_of_not_taken e.isSome_tagOf? hne, purpose]
    split
    · rename_i h; exact absurd h (hne _)
    · rename_i h; exact absurd h (hne _)
    · rfl

theorem purpose_eq_greeting {e : Envelope} : e.purpose = .greeting ↔ e.parts = [.hello] := by
  unfold purpose
  split
  · rename_i hparts
    rw [hparts]
    simp
  · rename_i hparts
    obtain ⟨c, hc⟩ := exists_command hparts
    rw [hparts, hc, Option.map_some, Option.getD_some]
    simp [Command.purpose_ne.1]
  · rename_i hhello _
    constructor
    · intro h; exact absurd h (by simp)
    · intro h; exact absurd h hhello

/-- Any other purpose is that of the command, which is the only part. -/
theorem purpose_eq_iff {e : Envelope} {p : Purpose} (hgreeting : p ≠ .greeting)
    (hunclear : p ≠ .unclear) :
    e.purpose = p ↔ e.parts = [.command] ∧ ∃ c, e.command = some c ∧ c.purpose = p := by
  unfold purpose
  split
  · rename_i hparts
    rw [hparts]
    simp [hgreeting.symm]
  · rename_i hparts
    obtain ⟨c, hc⟩ := exists_command hparts
    rw [hparts, hc]
    simp
  · rename_i hcommand
    constructor
    · intro h; exact absurd h.symm hunclear
    · rintro ⟨h, -⟩; exact absurd h hcommand

theorem purpose_eq_plain {e : Envelope} {v : Verb} (hv : v.isPlain = true) :
    e.purpose = .plain v ↔ e.Asks v := by
  rw [purpose_eq_iff (by simp) (by simp)]
  simp only [Command.purpose_eq_plain hv]
  rfl

theorem purpose_eq_about {e : Envelope} {v : Verb} {k : ObjectKind} :
    e.purpose = .about v k ↔ e.AsksAbout v k := by
  rw [purpose_eq_iff (by simp) (by simp)]
  simp only [Command.purpose_eq_about]
  rfl

/-- A message has a purpose if it is clear what it asks for. -/
theorem purpose_eq_unclear {e : Envelope} : e.purpose = .unclear ↔ ¬ e.IsClear := by
  constructor
  · rintro hunclear (hhello | ⟨v, hv, hasks⟩ | ⟨v, k, hasks⟩)
    · rw [purpose_eq_greeting.mpr hhello] at hunclear
      exact absurd hunclear (by simp)
    · rw [(purpose_eq_plain hv).mpr hasks] at hunclear
      exact absurd hunclear (by simp)
    · rw [purpose_eq_about.mpr hasks] at hunclear
      exact absurd hunclear (by simp)
  · intro hclear
    cases hpurpose : e.purpose with
    | unclear => rfl
    | greeting => exact absurd (.inl (purpose_eq_greeting.mp hpurpose)) hclear
    | about v k => exact absurd (.inr (.inr ⟨v, k, purpose_eq_about.mp hpurpose⟩)) hclear
    | plain v =>
        -- only a verb about no object has this purpose
        have hv : v.isPlain = true := by
          obtain ⟨-, c, -, hc⟩ := (purpose_eq_iff (by simp) (by simp)).mp hpurpose
          by_contra hv
          exact Command.purpose_ne.2 v (by simpa using hv) hc
        exact absurd (.inr (.inl ⟨v, hv, (purpose_eq_plain hv).mp hpurpose⟩)) hclear

end Envelope

end Provisioning
