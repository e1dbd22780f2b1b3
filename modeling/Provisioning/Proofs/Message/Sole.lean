import Mathlib.Data.List.ReduceOption
import Provisioning.Message.Envelope

/-!
# Messages with one part

The tag of a message is that of its only part, and a message with no part or several has a tag of
its own. So a tag that is not that fallback says two things at once: which part is there, and that
all others are missing. Typing fills slots inside the parts and leaves the parts themselves.
-/

namespace Provisioning

/-! ## The only candidate -/

theorem reduceOption_eq_nil {α : Type} {os : List (Option α)} :
    os.reduceOption = [] ↔ ∀ o ∈ os, o = none := List.filterMap_eq_nil_iff

theorem reduceOption_cons_eq_singleton {α : Type} {o : Option α} {os : List (Option α)} {x : α} :
    (o :: os).reduceOption = [x] ↔
      (o = some x ∧ ∀ p ∈ os, p = none) ∨ (o = none ∧ os.reduceOption = [x]) := by
  cases o with
  | none => simp
  | some y =>
      rw [← reduceOption_eq_nil]
      simp

/-- What is not the fallback is the only candidate. -/
theorem soleOr_eq_iff {α : Type} {fallback x : α} {os : List (Option α)} (h : x ≠ fallback) :
    soleOr fallback os = x ↔ os.reduceOption = [x] := by
  unfold soleOr
  split
  · rename_i y hy
    rw [hy, List.cons.injEq]
    simp
  · rename_i hne
    constructor
    · intro he; exact absurd he.symm h
    · intro he; exact absurd he (hne x)

/-- What is not the fallback is one of the candidates. -/
theorem candidate_of_soleOr {α : Type} {fallback x : α} {os : List (Option α)} (h : x ≠ fallback)
    (hx : soleOr fallback os = x) : ∃ o ∈ os, o = some x := by
  have hmem : x ∈ os.reduceOption := by
    rw [(soleOr_eq_iff h).mp hx]
    exact List.mem_singleton_self x
  exact ⟨some x, List.reduceOption_mem_iff.mp hmem, rfl⟩

/-- A kind is the only one when it is there and the other two are not. -/
theorem soleKind_eq_some_iff {domain host contact : Bool} {k : ObjectKind} :
    soleKind domain host contact = some k ↔ domain = decide (k = .domain) ∧
      host = decide (k = .host) ∧ contact = decide (k = .contact) := by
  cases domain <;> cases host <;> cases contact <;> cases k <;> decide

/-- Of the parts for the three kinds, the one for the only kind is there and the others are not. -/
theorem parts_of_soleKind {α β γ : Type} {domain : Option α} {host : Option β}
    {contact : Option γ} {k : ObjectKind}
    (h : soleKind domain.isSome host.isSome contact.isSome = some k) :
    (k = .domain ∧ (∃ d, domain = some d) ∧ host = none ∧ contact = none) ∨
      (k = .host ∧ domain = none ∧ (∃ x, host = some x) ∧ contact = none) ∨
      (k = .contact ∧ domain = none ∧ host = none ∧ ∃ c, contact = some c) := by
  obtain ⟨hdomain, hhost, hcontact⟩ := soleKind_eq_some_iff.mp h
  cases k with
  | domain =>
      refine .inl ⟨rfl, Option.isSome_iff_exists.mp hdomain, ?_, ?_⟩
      · simpa using hhost
      · simpa using hcontact
  | host =>
      refine .inr (.inl ⟨rfl, ?_, Option.isSome_iff_exists.mp hhost, ?_⟩)
      · simpa using hdomain
      · simpa using hcontact
  | contact =>
      refine .inr (.inr ⟨rfl, ?_, ?_, Option.isSome_iff_exists.mp hcontact⟩)
      · simpa using hdomain
      · simpa using hhost

/-! ## Messages that are commands about objects -/

theorem Envelope.command_of_tag {e : Envelope} {t : CommandTag} (h : e.tag = .command t) :
    ∃ c, e.command = some c ∧ c.tag = t := by
  have hcandidate := candidate_of_soleOr (by simp) h
  simp only [List.exists_mem_cons_iff, Option.map_eq_some_iff] at hcandidate
  simpa using hcandidate

theorem Command.check_of_tag {c : Command} {k : ObjectKind} (h : c.tag = .check (some k)) :
    ∃ x, c.check = some x ∧ x.kind? = some k := by
  have hcandidate := candidate_of_soleOr (by simp) h
  simp only [List.exists_mem_cons_iff, Option.map_eq_some_iff] at hcandidate
  simpa using hcandidate

theorem Command.info_of_tag {c : Command} {k : ObjectKind} (h : c.tag = .info (some k)) :
    ∃ x, c.info = some x ∧ x.kind? = some k := by
  have hcandidate := candidate_of_soleOr (by simp) h
  simp only [List.exists_mem_cons_iff, Option.map_eq_some_iff] at hcandidate
  simpa using hcandidate

theorem Command.update_of_tag {c : Command} {k : ObjectKind} (h : c.tag = .update (some k)) :
    ∃ x, c.update = some x ∧ x.kind? = some k := by
  have hcandidate := candidate_of_soleOr (by simp) h
  simp only [List.exists_mem_cons_iff, Option.map_eq_some_iff] at hcandidate
  simpa using hcandidate

/-! ## Logins -/

/-- The command is the login and nothing else. -/
structure Command.IsOnlyLogin (c : Command) (x : Login) : Prop where
  login : c.login = some x
  logout : c.logout = false
  check : c.check = none
  create : c.create = none
  info : c.info = none
  delete : c.delete = none
  update : c.update = none
  transfer : c.transfer = none
  renew : c.renew = none
  poll : c.poll = none

/-- The message is a command that is the login, and nothing else. -/
structure Envelope.IsOnlyLogin (e : Envelope) (x : Login) : Prop where
  greeting : e.greeting = none
  hello : e.hello = none
  response : e.response = none
  command : ∃ c, e.command = some c ∧ c.IsOnlyLogin x

theorem Command.tag_eq_login {c : Command} : c.tag = .login ↔ ∃ x, c.IsOnlyLogin x := by
  have hcases : c.tag = .login ↔ ∃ x, c.login = some x ∧ c.check = none ∧ c.create = none ∧
      c.info = none ∧ c.delete = none ∧ c.update = none ∧ c.transfer = none ∧ c.renew = none ∧
      c.logout = false ∧ c.poll = none := by
    rw [Command.tag, soleOr_eq_iff (by decide)]
    simp [reduceOption_cons_eq_singleton]
  rw [hcases]
  constructor
  · rintro ⟨x, h1, h3, h4, h5, h6, h7, h8, h9, h2, h10⟩
    exact ⟨x, h1, h2, h3, h4, h5, h6, h7, h8, h9, h10⟩
  · rintro ⟨x, h1, h2, h3, h4, h5, h6, h7, h8, h9, h10⟩
    exact ⟨x, h1, h3, h4, h5, h6, h7, h8, h9, h2, h10⟩

theorem Envelope.tag_eq_login {e : Envelope} :
    e.tag = .command .login ↔ ∃ x, e.IsOnlyLogin x := by
  have hcases : e.tag = .command .login ↔ (∃ c, e.command = some c ∧ c.tag = .login) ∧
      e.greeting = none ∧ e.hello = none ∧ e.response = none := by
    rw [Envelope.tag, soleOr_eq_iff (by decide)]
    simp [reduceOption_cons_eq_singleton]
  rw [hcases]
  constructor
  · rintro ⟨⟨c, hc, htag⟩, h1, h2, h3⟩
    obtain ⟨x, hx⟩ := Command.tag_eq_login.mp htag
    exact ⟨x, h1, h2, h3, c, hc, hx⟩
  · rintro ⟨x, h1, h2, h3, c, hc, hx⟩
    exact ⟨⟨c, hc, Command.tag_eq_login.mpr ⟨x, hx⟩⟩, h1, h2, h3⟩

theorem Command.isOnlyLogin_typed {c : Command} {x : Login} :
    c.typed.IsOnlyLogin x ↔ c.IsOnlyLogin x := by
  constructor
  · rintro ⟨h1, h2, h3, h4, h5, h6, h7, h8, h9, h10⟩
    simp only [Command.typed, Option.map_eq_none_iff] at *
    exact ⟨h1, h2, h3, h4, h5, h6, h7, h8, h9, h10⟩
  · rintro ⟨h1, h2, h3, h4, h5, h6, h7, h8, h9, h10⟩
    exact ⟨h1, h2, by simp [Command.typed, h3], by simp [Command.typed, h4],
      by simp [Command.typed, h5], by simp [Command.typed, h6], by simp [Command.typed, h7],
      by simp [Command.typed, h8], by simp [Command.typed, h9], h10⟩

theorem Envelope.isOnlyLogin_typed {e : Envelope} {x : Login} :
    e.typed.IsOnlyLogin x ↔ e.IsOnlyLogin x := by
  constructor
  · rintro ⟨h1, h2, h3, c, hc, hx⟩
    obtain ⟨d, hd, rfl⟩ := Option.map_eq_some_iff.mp hc
    exact ⟨h1, h2, Option.map_eq_none_iff.mp h3, d, hd, Command.isOnlyLogin_typed.mp hx⟩
  · rintro ⟨h1, h2, h3, c, hc, hx⟩
    exact ⟨h1, h2, by simp [Envelope.typed, h3], c.typed, by simp [Envelope.typed, hc],
      Command.isOnlyLogin_typed.mpr hx⟩

end Provisioning
