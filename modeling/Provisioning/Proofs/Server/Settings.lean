import Mathlib.Data.List.Nodup
import Provisioning.Proofs.Text.Case
import Provisioning.Server.Config

/-!
# Accounts of settings that are accepted

Settings are checked account by account and then turned into a table by a second pass, in which an
account would silently take the place of an earlier one with its login. The check is what keeps this
from happening. It accepts settings exactly if they are sound (`validate_eq_ok_iff`), and of sound
settings every account is in the table under its login, with the digest that its password has to
have. A configured digest may be written in either case; the digests that passwords are compared by
are in lower case, those that were configured and those that are computed.
-/

namespace Provisioning

/-! ## Tables of values with keys of their own -/

namespace Table

variable {α : Type} {key : α → String}

theorem size_insert_of_find?_eq_none {t : Table α} {k : String} (value : α)
    (h : t.find? k = none) : (t.insert k value).size = t.size + 1 := by
  have habsent : ∀ row ∈ t.rows, row.1 ≠ k := by
    intro row hrow heq
    rw [find?, Option.map_eq_none_iff, List.find?_eq_none] at h
    exact h row hrow (by simp [heq])
  have herase : (t.erase k).rows = t.rows := by
    rw [erase, List.filter_eq_self]
    intro row hrow
    simpa using habsent row hrow
  rw [size, insert, herase, List.length_append, List.length_singleton]
  rfl

/-- Values that have keys of their own all get into a table that has none of these keys. -/
theorem size_foldl_insert {values : List α} {t : Table α} (hnodup : (values.map key).Nodup)
    (hfree : ∀ v ∈ values, t.find? (key v) = none) :
    (values.foldl (fun t v => t.insert (key v) v) t).size = t.size + values.length := by
  induction values generalizing t with
  | nil => rfl
  | cons v values ih =>
      rw [List.map_cons, List.nodup_cons] at hnodup
      have hrest : ∀ w ∈ values, (t.insert (key v) v).find? (key w) = none := by
        intro w hw
        have hne : key w ≠ key v := by
          intro heq
          exact hnodup.1 (heq ▸ List.mem_map_of_mem hw)
        rw [find?_insert_of_ne t v hne]
        exact hfree w (List.mem_cons_of_mem v hw)
      rw [List.foldl_cons, ih hnodup.2 hrest,
        size_insert_of_find?_eq_none v (hfree v List.mem_cons_self), List.length_cons]
      omega

theorem size_ofList {values : List α} (hnodup : (values.map key).Nodup) :
    (ofList key values).size = values.length := by
  rw [ofList, size_foldl_insert hnodup fun _ _ => rfl]
  simp [size]

/-- Each of them is found under its key, and nothing else is found. -/
theorem find?_ofList_eq_some_iff {values : List α} (hnodup : (values.map key).Nodup) {k : String}
    {v : α} : (ofList key values).find? k = some v ↔ v ∈ values ∧ key v = k := by
  rw [find?_ofList]
  constructor
  · intro h
    have hmem := List.mem_of_getLast? h
    rw [List.mem_filter] at hmem
    exact ⟨hmem.1, by simpa using hmem.2⟩
  · rintro ⟨hv, hk⟩
    have hfiltered : v ∈ values.filter fun w => key w == k :=
      List.mem_filter.mpr ⟨hv, by simp [hk]⟩
    obtain ⟨w, hw⟩ := Option.isSome_iff_exists.mp
      (List.getLast?_isSome.mpr (List.ne_nil_of_mem hfiltered))
    -- the last value with the key is the only one
    have hmem := List.mem_of_getLast? hw
    rw [List.mem_filter] at hmem
    have hkey : key w = key v := by rw [hk]; simpa using hmem.2
    rw [hw, List.inj_on_of_nodup_map hnodup hmem.1 hv hkey]

end Table

/-! ## Digests -/

/-- The digits of a digest, in both cases. -/
def digestDigits : List Char := "0123456789abcdefABCDEF".toList

/-- A digest in writing: sixty-four hexadecimal digits. -/
def IsHexDigest (s : String) : Prop := s.length = 64 ∧ ∀ c ∈ s.toList, c ∈ digestDigits

theorem Text.Hex.isDigit_iff {c : Char} : isDigit c = true ↔ c ∈ digestDigits := by
  by_cases hc : c.toNat < 128
  · exact forall_ascii (P := fun c => isDigit c = true ↔ c ∈ digestDigits) (by decide +kernel) hc
  · -- beyond ASCII there is no digit on either side
    constructor
    · intro h
      simp [isDigit, Char.isDigit, Char.le_def, UInt32.le_iff_toNat_le] at h
      omega
    · intro h
      have hall : digestDigits.all (fun d => d.toNat < 128) = true := by decide
      have hascii := List.all_eq_true.mp hall c h
      exact absurd (of_decide_eq_true hascii) hc

theorem isDigest_iff {s : String} : isDigest s = true ↔ IsHexDigest s := by
  simp [isDigest, IsHexDigest, Text.Hex.isDigit_iff]

/-- A digest that is computed is in lower case. -/
theorem lowerAscii_hashPassword (password : String) :
    Text.lowerAscii (hashPassword password) = hashPassword password := by
  have hdigit : ∀ n < 16, (Text.Hex.digit n).toLower = Text.Hex.digit n := by decide
  have hbyte : ∀ b : UInt8, (Text.Hex.byte b).map Char.toLower = Text.Hex.byte b := by
    intro b
    have hb : b.toNat < 256 := b.toNat_lt
    rw [Text.Hex.byte, List.map_cons, List.map_singleton, hdigit _ (by omega),
      hdigit _ (by omega)]
  refine String.toList_inj.mp ?_
  rw [Text.toList_lowerAscii, hashPassword, Text.Hex.encode, String.toList_ofList, List.map_flatMap]
  exact List.flatMap_congr fun b _ => hbyte b

/-! ## One account -/

namespace AccountSettings

variable {a : AccountSettings}

/-- The account has one secret: a password, or a digest. -/
def HasOneSecret (a : AccountSettings) : Prop :=
  (∃ password, a.password = some password ∧ a.passwordHash = none) ∨
    ∃ digest, a.password = none ∧ a.passwordHash = some digest ∧ IsHexDigest digest

/-- Who logs in to the account has to say this password, or one with the same digest: the digest of
the password is that of the configured one, or the configured digest in lower case. -/
def Admits (a : AccountSettings) (password : String) : Prop :=
  (∃ own, a.password = some own ∧ hashPassword password = hashPassword own) ∨
    ∃ digest, a.passwordHash = some digest ∧ hashPassword password = Text.lowerAscii digest

/-- The account as it is kept. -/
def kept (a : AccountSettings) : Account where
  loginId := a.loginId
  passwordHash :=
    ((a.password.map hashPassword).or (a.passwordHash.map Text.lowerAscii)).getD ""
  registrarId := a.registrarId

theorem account_of_hasOneSecret (h : a.HasOneSecret) : a.account = .ok a.kept := by
  rcases h with ⟨password, hpassword, hhash⟩ | ⟨digest, hpassword, hhash, hdigest⟩
  · have hkept : a.kept = .ofPassword a.loginId password a.registrarId := by
      rw [Account.ofPassword, Account.ofHash, lowerAscii_hashPassword, kept, hpassword]
      rfl
    rw [account, hpassword, hhash, hkept]
  · have hkept : a.kept = .ofHash a.loginId digest a.registrarId := by
      rw [Account.ofHash, kept, hpassword, hhash]
      rfl
    simp only [account, hpassword, hhash, isDigest_iff.mpr hdigest, if_true, hkept]

theorem hasOneSecret_of_account {b : Account} (h : a.account = .ok b) : a.HasOneSecret := by
  unfold account at h
  split at h
  · rename_i password hpassword hhash
    exact .inl ⟨password, hpassword, hhash⟩
  · rename_i digest hpassword hhash
    split at h
    · rename_i hdigest
      exact .inr ⟨digest, hpassword, hhash, isDigest_iff.mp hdigest⟩
    · exact absurd h (by simp)
  · exact absurd h (by simp)

/-- The account that is kept takes the passwords that its settings admit. -/
theorem accepts_kept (h : a.HasOneSecret) (password : String) :
    a.kept.accepts password = true ↔ a.Admits password := by
  rw [Account.accepts, beq_iff_eq]
  rcases h with ⟨own, hpassword, hhash⟩ | ⟨digest, hpassword, hhash, -⟩
  · have hkept : a.kept.passwordHash = hashPassword own := by rw [kept, hpassword]; rfl
    simp [Admits, hkept, hpassword, hhash]
  · have hkept : a.kept.passwordHash = Text.lowerAscii digest := by
      rw [kept, hpassword, hhash]
      rfl
    simp [Admits, hkept, hpassword, hhash]

end AccountSettings

/-! ## All settings -/

namespace Config

/-- What settings have to be like. -/
structure IsSound (c : Config) : Prop where
  queue : c.network.queueCapacity ≠ 0
  frame : c.network.maxFrameSize ≠ 0
  /-- No two accounts have one login. -/
  logins : (c.accounts.map (·.loginId)).Nodup
  secrets : ∀ a ∈ c.accounts, a.HasOneSecret

theorem checkAccounts_eq_ok_iff {seen : List String} {accounts : List AccountSettings} :
    checkAccounts seen accounts = .ok () ↔
      (∀ a ∈ accounts, a.loginId ∉ seen ∧ a.HasOneSecret) ∧
        (accounts.map (·.loginId)).Nodup := by
  induction accounts generalizing seen with
  | nil => simp [checkAccounts]
  | cons a accounts ih =>
      by_cases hseen : a.loginId ∈ seen
      · -- the login is taken
        have hfault : checkAccounts seen (a :: accounts) = .error (.duplicateLogin a.loginId) := by
          simp [checkAccounts, hseen]
        rw [hfault]
        constructor
        · intro h
          exact absurd h (by simp)
        · rintro ⟨h, -⟩
          exact absurd hseen (h a List.mem_cons_self).1
      cases haccount : a.account with
      | error fault =>
          have hfault : checkAccounts seen (a :: accounts) = .error fault := by
            simp [checkAccounts, hseen, haccount]
          rw [hfault]
          constructor
          · intro h
            exact absurd h (by simp)
          · rintro ⟨h, -⟩
            rw [AccountSettings.account_of_hasOneSecret (h a List.mem_cons_self).2] at haccount
            exact absurd haccount (by simp)
      | ok b =>
          have hrest : checkAccounts seen (a :: accounts) =
              checkAccounts (a.loginId :: seen) accounts := by
            simp [checkAccounts, hseen, haccount]
          have hsecret := AccountSettings.hasOneSecret_of_account haccount
          rw [hrest, ih, List.map_cons, List.nodup_cons]
          constructor
          · rintro ⟨h, hnodup⟩
            refine ⟨?_, ?_, hnodup⟩
            · intro x hx
              rcases List.mem_cons.mp hx with rfl | hx
              · exact ⟨hseen, hsecret⟩
              · exact ⟨fun hold => (h x hx).1 (List.mem_cons_of_mem _ hold), (h x hx).2⟩
            · intro hagain
              obtain ⟨x, hx, hlogin⟩ := List.mem_map.mp hagain
              exact (h x hx).1 (hlogin ▸ List.mem_cons_self)
          · rintro ⟨h, hnew, hnodup⟩
            refine ⟨?_, hnodup⟩
            intro x hx
            obtain ⟨hold, hx'⟩ := h x (List.mem_cons_of_mem a hx)
            refine ⟨?_, hx'⟩
            intro hmem
            rcases List.mem_cons.mp hmem with heq | hmem
            · exact hnew (heq ▸ List.mem_map_of_mem hx)
            · exact hold hmem

/-- **Settings are accepted exactly if they are sound.** -/
theorem validate_eq_ok_iff {c : Config} : c.validate = .ok () ↔ c.IsSound := by
  unfold validate
  by_cases hqueue : c.network.queueCapacity = 0
  · rw [if_pos hqueue]
    exact ⟨fun h => absurd h (by simp), fun h => absurd hqueue h.queue⟩
  by_cases hframe : c.network.maxFrameSize = 0
  · rw [if_neg hqueue, if_pos hframe]
    exact ⟨fun h => absurd h (by simp), fun h => absurd hframe h.frame⟩
  rw [if_neg hqueue, if_neg hframe, checkAccounts_eq_ok_iff]
  constructor
  · rintro ⟨h, hnodup⟩
    exact ⟨hqueue, hframe, hnodup, fun a ha => (h a ha).2⟩
  · intro h
    exact ⟨fun a ha => ⟨by simp, h.secrets a ha⟩, h.logins⟩

theorem validate_refuses_iff {c : Config} :
    (∃ fault, c.validate = .error fault) ↔ ¬ c.IsSound := by
  rw [← validate_eq_ok_iff]
  cases c.validate <;> simp

/-- What is wrong with settings that are not sound. -/
theorem not_isSound_iff {c : Config} : ¬ c.IsSound ↔
    c.network.queueCapacity = 0 ∨ c.network.maxFrameSize = 0 ∨
      ¬ (c.accounts.map (·.loginId)).Nodup ∨ ∃ a ∈ c.accounts, ¬ a.HasOneSecret := by
  constructor
  · intro h
    by_contra hnone
    simp only [not_or, not_exists, not_and, not_not] at hnone
    obtain ⟨hqueue, hframe, hlogins, hsecrets⟩ := hnone
    exact h ⟨hqueue, hframe, hlogins, hsecrets⟩
  · rintro (hqueue | hframe | hlogins | ⟨a, ha, hsecret⟩) h
    · exact h.queue hqueue
    · exact h.frame hframe
    · exact hlogins h.logins
    · exact hsecret (h.secrets a ha)

theorem mapM_eq_map {ε α β : Type} {f : α → Except ε β} {g : α → β} {xs : List α}
    (h : ∀ x ∈ xs, f x = .ok (g x)) : xs.mapM f = .ok (xs.map g) := by
  induction xs with
  | nil => rfl
  | cons x xs ih =>
      rw [List.mapM_cons, h x List.mem_cons_self, ih fun y hy => h y (List.mem_cons_of_mem x hy)]
      rfl

theorem accountList_of_isSound {c : Config} (h : c.IsSound) :
    c.accountList = .ok (c.accounts.map (·.kept)) :=
  mapM_eq_map fun a ha => AccountSettings.account_of_hasOneSecret (h.secrets a ha)

theorem nodup_kept {c : Config} (h : c.IsSound) :
    ((c.accounts.map (·.kept)).map (·.loginId)).Nodup := by
  rw [List.map_map]
  exact h.logins

/-- No account of sound settings is lost in the table. -/
theorem size_kept {c : Config} (h : c.IsSound) :
    (Credentials.ofAccounts (c.accounts.map (·.kept))).size = c.accounts.length := by
  rw [Credentials.ofAccounts, Table.size_ofList (nodup_kept h), List.length_map]

/-- In the table of sound settings an account is found under its login, and nothing else is. -/
theorem find?_kept {c : Config} (h : c.IsSound) {loginId : String} {b : Account} :
    (Credentials.ofAccounts (c.accounts.map (·.kept))).find? loginId = some b ↔
      ∃ a ∈ c.accounts, a.loginId = loginId ∧ b = a.kept := by
  rw [Credentials.ofAccounts, Table.find?_ofList_eq_some_iff (nodup_kept h), List.mem_map]
  constructor
  · rintro ⟨⟨a, ha, rfl⟩, hlogin⟩
    exact ⟨a, ha, hlogin, rfl⟩
  · rintro ⟨a, ha, hlogin, rfl⟩
    exact ⟨⟨a, ha, rfl⟩, hlogin⟩

theorem authenticate_kept {c : Config} (h : c.IsSound) {loginId password : String} {b : Account} :
    (Credentials.ofAccounts (c.accounts.map (·.kept))).authenticate loginId password = some b ↔
      ∃ a ∈ c.accounts, a.loginId = loginId ∧ a.Admits password ∧ b = a.kept := by
  rw [Credentials.authenticate, Option.filter_eq_some_iff, find?_kept h]
  constructor
  · rintro ⟨⟨a, ha, hlogin, rfl⟩, haccepts⟩
    exact ⟨a, ha, hlogin, (AccountSettings.accepts_kept (h.secrets a ha) password).mp haccepts, rfl⟩
  · rintro ⟨a, ha, hlogin, hadmits, rfl⟩
    exact ⟨⟨a, ha, hlogin, rfl⟩,
      (AccountSettings.accepts_kept (h.secrets a ha) password).mpr hadmits⟩

/--
**Settings that are accepted make the credentials that they name.** There is an account for each of
their accounts, none takes the place of another one, and for every login and password: some account
is found exactly if the settings have an account with just this login that admits the password, and
what is found belongs to the registrar of that account. Settings are refused exactly if a limit is
zero, two accounts have one login, or an account has not one secret.
-/
theorem accepted_settings_make_credentials (c : Config) :
    (c.validate = .ok () → ∃ accounts, c.accountList = .ok accounts ∧
      (Credentials.ofAccounts accounts).size = c.accounts.length ∧
      ∀ loginId password,
        ((∃ b, (Credentials.ofAccounts accounts).authenticate loginId password = some b) ↔
          ∃ a ∈ c.accounts, a.loginId = loginId ∧ a.Admits password) ∧
        ∀ b, (Credentials.ofAccounts accounts).authenticate loginId password = some b →
          ∀ a ∈ c.accounts, a.loginId = loginId →
            b.loginId = loginId ∧ b.registrarId = a.registrarId) ∧
    ((∃ fault, c.validate = .error fault) ↔
      c.network.queueCapacity = 0 ∨ c.network.maxFrameSize = 0 ∨
        ¬ (c.accounts.map (·.loginId)).Nodup ∨ ∃ a ∈ c.accounts, ¬ a.HasOneSecret) := by
  constructor
  · intro hvalid
    have hsound := validate_eq_ok_iff.mp hvalid
    refine ⟨_, accountList_of_isSound hsound, size_kept hsound, fun loginId password => ⟨?_, ?_⟩⟩
    · constructor
      · rintro ⟨b, hb⟩
        obtain ⟨a, ha, hlogin, hadmits, -⟩ := (authenticate_kept hsound).mp hb
        exact ⟨a, ha, hlogin, hadmits⟩
      · rintro ⟨a, ha, hlogin, hadmits⟩
        exact ⟨a.kept, (authenticate_kept hsound).mpr ⟨a, ha, hlogin, hadmits, rfl⟩⟩
    · intro b hb a ha hlogin
      obtain ⟨x, hx, hsame, -, rfl⟩ := (authenticate_kept hsound).mp hb
      -- there is one account with the login
      rw [List.inj_on_of_nodup_map hsound.logins hx ha (hsame.trans hlogin.symm)]
      exact ⟨hlogin, rfl⟩
  · rw [validate_refuses_iff, not_isSound_iff]

/-- One account has a password and one a digest in upper case, that of `pw2`. -/
theorem accepted_settings_make_credentials_two :
    let c : Config := { accounts := [⟨"registrar1", some "pw1", none, "REG-1"⟩,
      ⟨"registrar2", none,
        some "93915A0A4BF8F634CB1856494DD4304472AD46B9827F541F76B6761C49CC55B0", "REG-2"⟩] }
    c.validate = .ok () ∧ ∃ accounts, c.accountList = .ok accounts ∧
      (Credentials.ofAccounts accounts).size = 2 ∧
      ∃ b, (Credentials.ofAccounts accounts).authenticate "registrar2" "pw2" = some b ∧
        b.registrarId = "REG-2" := by
  intro c
  have hvalid : c.validate = .ok () := by rfl
  obtain ⟨accounts, haccounts, hsize, hlogins⟩ := (accepted_settings_make_credentials c).1 hvalid
  have hdigest : hashPassword "pw2" = Text.lowerAscii
      "93915A0A4BF8F634CB1856494DD4304472AD46B9827F541F76B6761C49CC55B0" := by decide +kernel
  obtain ⟨b, hb⟩ := (hlogins "registrar2" "pw2").1.mpr
    ⟨_, List.mem_cons_of_mem _ List.mem_cons_self, rfl, .inr ⟨_, rfl, hdigest⟩⟩
  obtain ⟨-, hregistrar⟩ :=
    (hlogins "registrar2" "pw2").2 b hb _ (List.mem_cons_of_mem _ List.mem_cons_self) rfl
  exact ⟨hvalid, accounts, haccounts, hsize, b, hb, hregistrar⟩

end Config

end Provisioning
