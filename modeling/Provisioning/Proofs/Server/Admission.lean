import Provisioning.Proofs.Message.WrittenSize
import Provisioning.Proofs.Server.Run
import Provisioning.Proofs.Server.Steps
import Provisioning.Proofs.Wire.RoundTrip

/-!
# What a client must know to be admitted

A login is written as a document, framed, decoded, and looked up by its identifier and its password.
Escaping, encoding and framing give back every character, but a text is read without the blanks at
its two ends, and an identifier or a password is a text like any other. So what is looked up is not
what the client was given but that without the blanks around it (`arriving_login`), and for these two
texts the session does exactly what the credentials say (`handle_login`).

A password that differs from the right one by blanks around it therefore opens the account, and an
account whose own identifier or password has blanks around it cannot be opened.
-/

namespace Provisioning

open Markup
open Calendar (Instant)

/-! ## The answer to a login -/

/-- The session answers a login for which this account, or none, was found: it tells success and is
logged in exactly if there is one, and that is the account that is bound. -/
structure Session.Decides (s : Session) (found : Option Account) (reply : Reply) : Prop where
  answered : ∃ r, reply.1 = .ofResponse r ∧ (r.code = 1000 ↔ found.isSome = true)
  loggedIn : reply.2.state = .waitingForCommand ↔ found.isSome = true
  bound : reply.2.account = found.or s.account

/-- A message is one login only. -/
theorem Envelope.IsOnlyLogin.unique {e : Envelope} {x y : Login} (hx : e.IsOnlyLogin x)
    (hy : e.IsOnlyLogin y) : x = y := by
  obtain ⟨-, -, -, c, hc, hx⟩ := hx
  obtain ⟨-, -, -, d, hd, hy⟩ := hy
  rw [hc, Option.some.injEq] at hd
  subst hd
  exact Option.some.inj (hx.login.symm.trans hy.login)

/-- The login of a client is a login and nothing else. -/
theorem Envelope.isOnlyLogin_logIn (clientId password id : String) (menu : ServiceMenu) :
    (Envelope.ofCommand (.logIn clientId password id menu)).IsOnlyLogin
      (.ofMenu clientId password menu) :=
  ⟨rfl, rfl, rfl, _, rfl, by constructor <;> rfl⟩

namespace Service

variable {v : Service} {now : Instant} {s : Session}

/-- **A session that waits for a login decides it** by what the credentials say of its two texts. -/
theorem handle_login {e : Envelope} {x : Login} (hs : s.state = .waitingForClient)
    (he : e.IsOnlyLogin x) :
    s.Decides (v.credentials.authenticate x.clientId x.password) (v.handle now s (.message e)) := by
  have hstep := handle_step v now s (.message e)
  generalize v.handle now s (.message e) = reply at hstep
  cases hstep with
  | @accepted _ y a _ hy ha =>
      obtain rfl := he.unique hy
      rw [ha]
      exact ⟨⟨_, rfl, by simp [Response.ofCode, ResultCode.code]⟩,
        by simp [Session.respond, Session.advance, Session.logIn], rfl⟩
  | @refused _ y _ hy ha =>
      obtain rfl := he.unique hy
      rw [ha]
      exact ⟨⟨_, rfl, by simp [Response.ofCode, ResultCode.code]⟩,
        by simp [Session.respond, Session.advance, Session.received, hs], rfl⟩
  | @shutOut _ y _ hy ha =>
      obtain rfl := he.unique hy
      rw [ha]
      exact ⟨⟨_, rfl, by simp [Response.ofCode, ResultCode.code]⟩,
        by simp [Session.respond, Session.advance, Session.moveTo], rfl⟩
  -- the message is a login, and the session waits for one
  | idle hclient => exact absurd hs hclient
  | noLogin _ hno => exact absurd he (hno x)
  | greeting hcommand => rw [hs] at hcommand; exact absurd hcommand (by simp)
  | logout hcommand => rw [hs] at hcommand; exact absurd hcommand (by simp)
  | answered hcommand => rw [hs] at hcommand; exact absurd hcommand (by simp)
  | told hcommand => rw [hs] at hcommand; exact absurd hcommand (by simp)

/-- A login with a right password makes a greeted session wait for commands. -/
theorem state_after_login {v : Service} {clientId password : String} {a : Account}
    (h : v.credentials.authenticate clientId password = some a) (connection : UInt64)
    (now : Instant) (id : String) (menu : ServiceMenu) :
    (v.after (.greeted connection)
      [(now, .message (.ofCommand (.logIn clientId password id menu)))]).state =
      .waitingForCommand := by
  have hdecides : (Session.greeted connection).Decides
      (v.credentials.authenticate clientId password)
      (v.handle now (.greeted connection)
        (.message (.ofCommand (.logIn clientId password id menu)))) :=
    handle_login (x := .ofMenu clientId password menu) rfl
      (Envelope.isOnlyLogin_logIn clientId password id menu)
  simp only [after, List.foldl_cons, List.foldl_nil]
  rw [hdecides.loggedIn, h]
  rfl

end Service

/-! ## The login that arrives -/

namespace Wire

/-- A login for the usual services can be written when its texts are short. -/
theorem encode_logIn (clientId password id : String)
    (h : writtenSize clientId + writtenSize password + writtenSize id ≤ 10000) :
    ∃ bytes, encode (.ofCommand (.logIn clientId password id .standard)) = .ok bytes := by
  have hsize := Envelope.size_logIn_le clientId password id
  exact encode_of_size (by omega)

/-- A login that was written arrives as a login and nothing else, without the blanks around its
identifier and its password. -/
theorem arriving_login {clientId password id : String} {menu : ServiceMenu} {bytes : List UInt8}
    {max : Nat} (hencode : encode (.ofCommand (.logIn clientId password id menu)) = .ok bytes)
    (hmax : bytes.length ≤ max) :
    ∃ e x, (Decoder.extend ⟨[], max⟩ bytes).nextEnvelope = (.ok (some e), ⟨[], max⟩) ∧
      e.IsOnlyLogin x ∧ x.clientId = trimText clientId ∧ x.password = trimText password := by
  have hplain : (Envelope.ofCommand (.logIn clientId password id menu)).Plain := by
    refine ⟨?_, by simp [Envelope.ofCommand]⟩
    rintro c ⟨⟩
    constructor <;> simp [Command.logIn, Command.ofLogin, Command.blank]
  obtain ⟨e, hnext, htyped⟩ := nextEnvelope_delivered hplain hencode hmax []
  rw [List.append_nil] at hnext
  refine ⟨e, (Login.ofMenu clientId password menu).delivered, hnext, ?_, rfl, rfl⟩
  -- typing leaves the parts of a message, so what was delivered tells what arrived
  rw [← Envelope.isOnlyLogin_typed, htyped]
  exact ⟨rfl, rfl, rfl, _, rfl, by constructor <;> rfl⟩

end Wire

namespace Service

/--
**A login counts without the blanks around it.** Whatever the credentials, the identifier and the
password: a login for them that can be written is taken out of the bytes, nothing of which is left,
and a session that waits for it answers with success and is logged in exactly if the two texts,
without the blanks at their ends, are those of an account. That account is the one that is bound.
-/
theorem login_counts_without_blanks (v : Service) (now : Instant) {s : Session}
    (hs : s.state = .waitingForClient) {clientId password id : String} {menu : ServiceMenu}
    {bytes : List UInt8} {max : Nat}
    (hencode : Wire.encode (.ofCommand (.logIn clientId password id menu)) = .ok bytes)
    (hmax : bytes.length ≤ max) :
    ∃ e, (Wire.Decoder.extend ⟨[], max⟩ bytes).nextEnvelope = (.ok (some e), ⟨[], max⟩) ∧
      s.Decides (v.credentials.authenticate (trimText clientId) (trimText password))
        (v.handle now s (.message e)) := by
  obtain ⟨e, x, hnext, hlogin, hid, hpassword⟩ := Wire.arriving_login hencode hmax
  refine ⟨e, hnext, ?_⟩
  rw [← hid, ← hpassword]
  exact handle_login hs hlogin

/-- Markup in the identifier, blanks in the middle of the password, and the account is bound. -/
theorem login_counts_without_blanks_inside :
    let account : Account := ⟨"a&b", hashPassword "p  w<1>", "REG-1"⟩
    let v : Service := { credentials := ⟨[("a&b", account)]⟩ }
    ∃ bytes e, Wire.encode (.ofCommand (.logIn "a&b" "p  w<1>" "L-1" .standard)) = .ok bytes ∧
      (Wire.Decoder.extend {} bytes).nextEnvelope = (.ok (some e), {}) ∧
      (Session.greeted 7).Decides (some account) (v.handle ⟨0, 0⟩ (.greeted 7) (.message e)) := by
  intro account v
  obtain ⟨bytes, hencode⟩ := Wire.encode_logIn "a&b" "p  w<1>" "L-1" (by decide)
  obtain ⟨e, hnext, hdecides⟩ := login_counts_without_blanks v ⟨0, 0⟩
    (s := .greeted 7) rfl hencode (Wire.length_encode_le hencode)
  have hid : trimText "a&b" = "a&b" := by decide
  have hpassword : trimText "p  w<1>" = "p  w<1>" := by decide
  have hfound : v.credentials.authenticate "a&b" "p  w<1>" = some account := by
    simp [v, account, Credentials.authenticate, Table.find?, Account.accepts]
  rw [hid, hpassword, hfound] at hdecides
  exact ⟨bytes, e, hencode, hnext, hdecides⟩

/-- Nobody is known by " registrar1" and " pw1 ", and yet a login for these two is answered with
success and opens the account of "registrar1". -/
theorem login_with_blanks_is_admitted :
    let account : Account := ⟨"registrar1", hashPassword "pw1", "REG-1"⟩
    let v : Service := { credentials := ⟨[("registrar1", account)]⟩ }
    v.credentials.authenticate " registrar1" " pw1 " = none ∧
    ∃ bytes e, Wire.encode (.ofCommand (.logIn " registrar1" " pw1 " "L-1" .standard)) = .ok bytes ∧
      (Wire.Decoder.extend {} bytes).nextEnvelope = (.ok (some e), {}) ∧
      ∃ r, (v.handle ⟨0, 0⟩ (.greeted 7) (.message e)).1 = .ofResponse r ∧ r.code = 1000 ∧
        (v.handle ⟨0, 0⟩ (.greeted 7) (.message e)).2.state = .waitingForCommand ∧
        (v.handle ⟨0, 0⟩ (.greeted 7) (.message e)).2.account = some account := by
  intro account v
  have hunknown : v.credentials.authenticate " registrar1" " pw1 " = none := by
    simp [v, account, Credentials.authenticate, Table.find?]
  obtain ⟨bytes, hencode⟩ := Wire.encode_logIn " registrar1" " pw1 " "L-1" (by decide)
  obtain ⟨e, x, hnext, hlogin, hid, hpassword⟩ :=
    Wire.arriving_login hencode (Wire.length_encode_le hencode)
  have hdecides : (Session.greeted 7).Decides (v.credentials.authenticate x.clientId x.password)
      (v.handle ⟨0, 0⟩ (.greeted 7) (.message e)) := handle_login rfl hlogin
  have hname : trimText " registrar1" = "registrar1" := by decide
  have hword : trimText " pw1 " = "pw1" := by decide
  have hfound : v.credentials.authenticate "registrar1" "pw1" = some account := by
    simp [v, account, Credentials.authenticate, Table.find?, Account.accepts]
  rw [hid, hpassword, hname, hword, hfound] at hdecides
  obtain ⟨⟨r, hreply, hcode⟩, hstate, hbound⟩ := hdecides
  exact ⟨hunknown, bytes, e, hencode, hnext, r, hreply, hcode.mpr rfl, hstate.mpr rfl, hbound⟩

end Service

end Provisioning
