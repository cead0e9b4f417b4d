import Rsduck.Catalog.Auth.Password
import Rsduck.Catalog.Mutation.Noninterference
import Rsduck.Lib.Run

/-!
Which password a user logs in with, over runs of user statements and logins.

A `CREATE USER` takes the first literal of its text for the password, an `ALTER USER` the text of
the option in its tree.
-/

namespace Rsduck.Catalog

open Lib Lib.Eff Lib.Text Sql

/-! ### The system -/

inductive AccountEvent
  /-- The password is the text of the `PASSWORD` option in the tree, when it has one. -/
  | createUser (salt : String) (orReplace ifNotExists : Bool) (name : List Char)
    (password : Option String) (sql : List Char) (owner : ℤ)
  | alterUser (salt : String) (otherOptions ifExists : Bool) (name : List Char)
    (password : Option (Option String)) (sql : List Char) (owner : ℤ)
  | dropUser (ifExists : Bool) (names : List ObjectName) (sql : List Char) (owner : ℤ)
  | login (request : AuthRequest) (time : ℤ)

/-- The database, and for each user's id the text of the last `PASSWORD` option that was set. -/
structure Passwords (P : Type) where
  db : Db P
  current : ℤ → Option String

section System

variable {P : Type} (A : Argon2) (sha256 : List UInt8 → List UInt8)

/-- A statement that created or altered a user has set the password. -/
def Passwords.settled (w : Passwords P) (outcome : Except String ℕ × Db P) (name : List Char)
    (password : Option String) : Passwords P where
  db := outcome.2
  current userId :=
    if outcome.1.toOption = some 1 ∧
        userIdByNameOpt outcome.2.cat (String.ofList (trim name)) = some userId then password
    else w.current userId

def Passwords.step (w : Passwords P) : AccountEvent → Passwords P
  | .createUser salt orReplace ifNotExists name password sql owner =>
    w.settled ((userMutation (A.hashing sha256 salt) (.createUser orReplace ifNotExists name) sql
      owner).alone w.db) name password
  | .alterUser salt otherOptions ifExists name password sql owner =>
    w.settled ((userMutation (A.hashing sha256 salt)
      (.alterUser otherOptions ifExists name password) sql owner).alone w.db) name password.join
  | .dropUser ifExists names sql owner =>
    { w with
      db := ((userMutation (A.hashing sha256 "") (.dropUser ifExists names) sql owner).alone
        w.db).2 }
  | .login request time =>
    { w with
      db := (exec (Session.statement (Db.onCatalog (authenticate (A.check sha256) time request)))
        ⟨w.db, none⟩).2.now }

def passwordSystem : System (Passwords P) AccountEvent where
  step w e := some (w.step A sha256 e)

/-- The first quote of a text opens a literal of this value, which has its quotes doubled. -/
def FirstQuoteOpens (value text : List Char) : Prop :=
  ∃ before after, '\'' ∉ before ∧ after.head? ≠ some '\'' ∧
    text = before ++ '\'' :: (value.flatMap (fun c => if c = '\'' then ['\'', '\''] else [c]) ++
      '\'' :: after)

/-- The first quote in the text of a `CREATE USER` is that of the `PASSWORD` option, if it has one. -/
def PasswordComesFirst : AccountEvent → Prop
  | .createUser _ _ _ _ password sql _ => ∀ text ∈ password, FirstQuoteOpens text.toList sql
  | _ => True

def LogsIn (c : Catalog) (request : AuthRequest) : Prop :=
  ∃ p c', Runs (authenticate (A.check sha256) 0 request) c p c'

/-- **Exact logins**: both protocols let a user in with the current password and no other. -/
def ExactLogins (w : Passwords P) : Prop :=
  ∀ u ∈ w.db.cat.rsUser.rows, ∀ password, w.current u.userId = some password →
    (∀ other, LogsIn A sha256 w.db.cat ⟨.webApi, u.username, .cleartextPassword other⟩ ↔
      other = password) ∧
    ∀ nonce other, TellsApart sha256 nonce password other →
      (LogsIn A sha256 w.db.cat ⟨.mySqlWire, u.username,
        .mySqlCachingSha2Password nonce (scramble sha256 nonce other)⟩ ↔ other = password)

/-- What is stored of a user is made of the password. -/
structure Stores (u : UserRow) (password : String) : Prop where
  passwordAlgo : u.passwordAlgo = "argon2id"
  passwordHash : ∃ salt, A.hashPassword salt password = .ok u.passwordHash
  mysqlAuthPlugin : u.mysqlAuthPlugin = mysqlDefaultAuthPlugin
  mysqlAuthString : u.mysqlAuthString = mysqlCachingSha2Verifier sha256 password

/-- Every user is active, with the current password stored. -/
def KnowsPasswords (w : Passwords P) : Prop :=
  ∀ u ∈ w.db.cat.rsUser.rows, u.status = "active" ∧
    ∀ password, w.current u.userId = some password → Stores A sha256 u password

variable {A sha256}

lemma find_username {c : Catalog} {u : UserRow} (hu : u ∈ c.rsUser.rows) :
    c.rsUser.find (·.username == u.username) = some u := by
  refine Table.find?_eq_some_of_unique hu (beq_self_eq_true _) fun v hv hname => ?_
  refine Table.eq_of_clash hv hu ?_
  simp [Keyed.clash, beq_iff_eq.1 hname]

lemma logsIn_iff {c : Catalog} {u : UserRow} (hu : u ∈ c.rsUser.rows) (protocol : AuthProtocol)
    (credential : AuthCredential) :
    LogsIn A sha256 c ⟨protocol, u.username, credential⟩ ↔
      credentialFits (A.check sha256) ⟨protocol, u.username, credential⟩ u = true := by
  constructor
  · rintro ⟨p, c', h⟩
    obtain ⟨u', hfind, hfits, -⟩ := (runs_authenticate _ _).1 h
    cases (find_username hu).symm.trans hfind
    exact hfits
  · intro hfits
    exact ⟨_, _, (runs_authenticate _ _).2 ⟨u, find_username hu, hfits, rfl, rfl⟩⟩

/-- What is stored decides who logs in. -/
lemma exactLogins_of_knowsPasswords (hA : A.CollisionFree)
    (hlength : ∀ bytes, (sha256 bytes).length = 32) {w : Passwords P}
    (h : KnowsPasswords A sha256 w) : ExactLogins A sha256 w := by
  intro u hu password hpassword
  obtain ⟨hactive, hstores⟩ := h u hu
  obtain ⟨halgo, ⟨salt, hhash⟩, hplugin, hverifier⟩ := hstores password hpassword
  constructor
  · intro other
    rw [logsIn_iff hu]
    simp only [credentialFits, hactive, halgo, beq_self_eq_true, Bool.true_and]
    exact hA salt password _ hhash other
  · intro nonce other hother
    rw [logsIn_iff hu]
    have hne : (u.mysqlAuthString != "") = true := by
      rw [hverifier]
      simpa using mysqlCachingSha2Verifier_ne hlength password
    simp only [credentialFits, hactive, hplugin, hne, beq_self_eq_true, Bool.true_and]
    rw [hverifier]
    exact verify_scramble hlength hother

/-! ### The first literal -/

lemma quotedLiteralsFrom_some (value acc after : List Char) (hafter : after.head? ≠ some '\'') :
    quotedLiteralsFrom (some acc)
        (value.flatMap (fun c => if c = '\'' then ['\'', '\''] else [c]) ++ '\'' :: after) =
      (acc ++ value) :: quotedLiteralsFrom none after := by
  induction value generalizing acc with
  | nil =>
    rw [List.append_nil, List.flatMap_nil, List.nil_append]
    rcases after with _ | ⟨d, after⟩
    · rfl
    · have hd : d ≠ '\'' := fun hd => hafter (congrArg some hd)
      simp [quotedLiteralsFrom, hd]
  | cons c value ih =>
    rw [List.flatMap_cons, List.append_assoc]
    by_cases hc : c = '\''
    · subst hc
      rw [if_pos rfl, List.cons_append, List.cons_append, List.nil_append, quotedLiteralsFrom, ih,
        List.append_assoc, List.singleton_append]
    · rw [if_neg hc, List.cons_append, List.nil_append, quotedLiteralsFrom, if_neg hc, ih,
        List.append_assoc, List.singleton_append]
      exact fun r h => absurd h hc

/-- What stands between the first quotes is the first literal. -/
lemma head_quotedLiterals {value text : List Char} (h : FirstQuoteOpens value text) :
    (quotedLiterals text).head? = some value := by
  obtain ⟨before, after, hbefore, hafter, rfl⟩ := h
  unfold quotedLiterals
  induction before with
  | nil =>
    rw [List.nil_append, quotedLiteralsFrom, if_pos rfl, quotedLiteralsFrom_some _ _ _ hafter]
    rfl
  | cons c before ih =>
    obtain ⟨hc, hrest⟩ := List.ne_and_not_mem_of_not_mem_cons hbefore
    rw [List.cons_append, quotedLiteralsFrom, if_neg (Ne.symm hc)]
    exact ih hrest

/-! ### One event -/

/-- Nobody was counted and nothing changed. -/
lemma knowsPasswords_settled_unchanged {w : Passwords P} (h : KnowsPasswords A sha256 w)
    {outcome : Except String ℕ × Db P} (hcat : outcome.2.cat = w.db.cat)
    (hcount : ∀ n, outcome.1 = .ok n → n = 0) (name : List Char) (password : Option String) :
    KnowsPasswords A sha256 (w.settled outcome name password) := by
  have hzero : outcome.1.toOption ≠ some 1 := by
    rcases hout : outcome.1 with e | n
    · simp [Except.toOption]
    · have := hcount n hout
      simp [Except.toOption, this]
  intro u hu
  have hu' : u ∈ w.db.cat.rsUser.rows := by
    rw [← hcat]
    exact hu
  obtain ⟨hactive, hstores⟩ := h u hu'
  refine ⟨hactive, fun password' hpassword' => hstores password' ?_⟩
  simpa [Passwords.settled, hzero] using hpassword'

/-- The name of a user that was just written is its own. -/
lemma userIdByNameOpt_insert {c c' : Catalog} {u : UserRow} {users : Table UserRow}
    (hnone : userIdByNameOpt c u.username = none) (hinsert : c.rsUser.insert u = some users)
    (hc' : c'.rsUser = users) : userIdByNameOpt c' u.username = some u.userId := by
  unfold userIdByNameOpt at hnone ⊢
  rw [Option.map_eq_none_iff] at hnone
  have hself : sameName u.username u.username = true := beq_self_eq_true _
  have hfind : users.rows.find? (fun v => sameName v.username u.username) = some u := by
    rw [(Table.insert_eq_some.1 hinsert).2, List.find?_append,
      show c.rsUser.rows.find? _ = none from hnone]
    simp [hself]
  rw [hc']
  exact congrArg (Option.map (·.userId)) hfind

lemma knowsPasswords_createUser {w : Passwords P} (h : KnowsPasswords A sha256 w) {salt : String}
    {orReplace ifNotExists : Bool} {name : List Char} {password : Option String} {sql : List Char}
    {owner : ℤ} (hfirst : ∀ text ∈ password, FirstQuoteOpens text.toList sql) :
    KnowsPasswords A sha256 (w.settled ((userMutation (A.hashing sha256 salt)
      (.createUser orReplace ifNotExists name) sql owner).alone w.db) name password) := by
  rcases alone_cases (calm_userMutation (A.hashing sha256 salt)
    (.createUser orReplace ifNotExists name) sql owner w.db) with
    ⟨b, n, t, hb, hrun, halone⟩ | ⟨-, hdb, hcount⟩
  · rw [halone]
    obtain ⟨-, -, text, rest, hash, hquoted, hhash, rfl⟩ :=
      (createUserAccount_eq_some (d := w.db)).1 hb
    have hpassword : ∀ p ∈ password, String.ofList text = p := fun p hp => by
      have hhead := head_quotedLiterals (hfirst p hp)
      rw [hquoted] at hhead
      rw [Option.some.inj hhead, String.ofList_toList]
    rcases runs_insertUser.1 (Db.runs_onCatalog.1 hrun).1 with ⟨-, -, rfl, hcat⟩ |
      ⟨hnone, rfl, userId, v, journal, users, readerRole, userRoles, -, -, -, husers, -, -, hcat⟩
    · exact knowsPasswords_settled_unchanged h hcat (fun n hn => (Except.ok.inj hn).symm) name
        password
    · have husers' : t.cat.rsUser = users := by
        rw [hcat]
        rfl
      have hid : userIdByNameOpt t.cat (String.ofList (trim name)) = some userId :=
        userIdByNameOpt_insert (u := newUser userId (String.ofList (trim name)) hash _) hnone husers
          husers'
      intro u hu
      change u ∈ t.cat.rsUser.rows at hu
      rw [husers', (Table.insert_eq_some.1 husers).2, List.mem_append, List.mem_singleton] at hu
      rcases hu with hold | rfl
      · -- the id of a user that was there is not the new one
        have hne : ¬ userId = u.userId := fun he => by
          have := (Table.insert_eq_some.1 husers).1 u hold
          simp [Keyed.clash, newUser, he] at this
        obtain ⟨hactive, hstores⟩ := h u hold
        refine ⟨hactive, fun p hp => hstores p ?_⟩
        change (if _ then _ else _) = _ at hp
        rw [show userIdByNameOpt t.cat _ = some userId from hid] at hp
        simpa [hne] using hp
      · refine ⟨rfl, fun p hp => ?_⟩
        change (if _ then _ else _) = _ at hp
        rw [show userIdByNameOpt t.cat _ = some userId from hid] at hp
        obtain rfl : String.ofList text = p :=
          hpassword p (by simpa [newUser, Except.toOption] using hp)
        exact ⟨rfl, ⟨salt, hhash⟩, rfl, rfl⟩
  · exact knowsPasswords_settled_unchanged h (congrArg Db.cat hdb) (fun n hn => (hcount n hn).1) name
      password

/-- An update of users that keeps their names keeps who has which name. -/
lemma userIdByNameOpt_update (c : Catalog) (p : UserRow → Bool) (f : UserRow → UserRow)
    (hf : Table.KeepsKey f) (hid : ∀ u, (f u).userId = u.userId)
    (hname : ∀ u, (f u).username = u.username) (username : String) :
    userIdByNameOpt { c with rsUser := c.rsUser.update p f hf } username =
      userIdByNameOpt c username := by
  have hfind := Table.find_update p (fun u : UserRow => sameName u.username username) f hf
    (fun u => by rw [hname]) c.rsUser
  have hmap := congrArg (Option.map fun u : UserRow => u.userId) hfind
  rw [Option.map_map] at hmap
  refine hmap.trans (Option.map_congr fun u _ => ?_)
  rw [Function.comp_apply]
  split_ifs
  · exact hid u
  · rfl

lemma knowsPasswords_alterUser {w : Passwords P} (h : KnowsPasswords A sha256 w) {salt : String}
    {otherOptions ifExists : Bool} {name : List Char} {password : Option (Option String)}
    {sql : List Char} {owner : ℤ} :
    KnowsPasswords A sha256 (w.settled ((userMutation (A.hashing sha256 salt)
      (.alterUser otherOptions ifExists name password) sql owner).alone w.db) name
      password.join) := by
  rcases alone_cases (calm_userMutation (A.hashing sha256 salt)
    (.alterUser otherOptions ifExists name password) sql owner w.db) with
    ⟨b, n, t, hb, hrun, halone⟩ | ⟨-, hdb, hcount⟩
  · rw [halone]
    obtain ⟨-, -, text, hash, rfl, hhash, rfl⟩ := (alterUserAccount_eq_some (d := w.db)).1 hb
    rcases runs_updateUserPassword.1 (Db.runs_onCatalog.1 hrun).1 with ⟨-, -, rfl, hcat⟩ |
      ⟨rfl, userId, journalId, v, journal, hname, -, -, -, hcat⟩
    · exact knowsPasswords_settled_unchanged h hcat (fun n hn => (Except.ok.inj hn).symm) name _
    · have husers : t.cat.rsUser.rows = w.db.cat.rsUser.rows.map fun u =>
          if u.userId == userId then
            withPassword hash (mysqlCachingSha2Verifier sha256 text) u else u := by
        rw [hcat]
        rfl
      have hid : userIdByNameOpt t.cat (String.ofList (trim name)) = some userId := by
        have hsame := userIdByNameOpt_update w.db.cat (fun u => u.userId == userId)
          (withPassword hash (mysqlCachingSha2Verifier sha256 text)) (fun _ _ => rfl)
          (fun _ => rfl) (fun _ => rfl) (String.ofList (trim name))
        rw [← hname, ← hsame, hcat]
        rfl
      intro u hu
      change u ∈ t.cat.rsUser.rows at hu
      rw [husers, List.mem_map] at hu
      obtain ⟨u, hu, rfl⟩ := hu
      obtain ⟨hactive, hstores⟩ := h u hu
      by_cases hself : u.userId = userId
      · rw [if_pos (by simpa using hself)]
        refine ⟨hactive, fun p hp => ?_⟩
        change (if _ then _ else _) = _ at hp
        rw [show userIdByNameOpt t.cat _ = some userId from hid] at hp
        obtain rfl : text = p := by simpa [withPassword, hself, Except.toOption] using hp
        exact ⟨rfl, ⟨salt, hhash⟩, rfl, rfl⟩
      · rw [if_neg (by simpa using hself)]
        refine ⟨hactive, fun p hp => hstores p ?_⟩
        change (if _ then _ else _) = _ at hp
        rw [show userIdByNameOpt t.cat _ = some userId from hid] at hp
        simpa [Ne.symm hself] using hp
  · exact knowsPasswords_settled_unchanged h (congrArg Db.cat hdb) (fun n hn => (hcount n hn).1) name _

/-- A user who is left was there before. -/
lemma knowsPasswords_dropUser {w : Passwords P} (h : KnowsPasswords A sha256 w) {ifExists : Bool}
    {names : List ObjectName} {sql : List Char} {owner : ℤ} :
    KnowsPasswords A sha256 { w with
      db := ((userMutation (A.hashing sha256 "") (.dropUser ifExists names) sql owner).alone
        w.db).2 } := by
  rcases alone_cases (calm_userMutation (A.hashing sha256 "") (.dropUser ifExists names) sql owner
    w.db) with ⟨b, n, t, hb, hrun, halone⟩ | ⟨-, hdb, -⟩
  · rw [halone]
    simp only [userMutation, dropUserAccounts] at hb
    split_ifs at hb
    cases hb
    have hfewer : FewerUsers w.db.cat t.cat :=
      keeps_foldlM (fun _ _ _ => keeps_dropUserAccount _ _ _ _) _ _ _ (Db.runs_onCatalog.1 hrun).1
    exact fun u hu => h u (hfewer hu)
  · rw [hdb]
    exact h

lemma knowsPasswords_login {w : Passwords P} (h : KnowsPasswords A sha256 w)
    (request : AuthRequest) (time : ℤ) :
    KnowsPasswords A sha256 { w with
      db := (exec (Session.statement (Db.onCatalog (authenticate (A.check sha256) time request)))
        ⟨w.db, none⟩).2.now } := by
  rcases Session.exec_statement (Db.onCatalog (authenticate (A.check sha256) time request))
    ⟨w.db, none⟩ with ⟨e, hrun⟩ | ⟨p, t, hrun, hstatement⟩
  · rw [hrun]
    exact h
  · rw [hstatement]
    obtain ⟨u₀, -, -, -, hcat⟩ := (runs_authenticate _ _).1 (Db.runs_onCatalog.1 hrun).1
    intro u hu
    change u ∈ t.cat.rsUser.rows at hu
    rw [hcat, rows_recordLogin] at hu
    obtain ⟨v, hv, rfl⟩ := List.mem_map.1 hu
    obtain ⟨hactive, hstores⟩ := h v hv
    split_ifs
    · refine ⟨hactive, fun p hp => ?_⟩
      obtain ⟨halgo, hhash, hplugin, hverifier⟩ := hstores p hp
      exact ⟨halgo, hhash, hplugin, hverifier⟩
    · exact ⟨hactive, hstores⟩

lemma knowsPasswords_step {w w' : Passwords P} {e : AccountEvent}
    (h : KnowsPasswords A sha256 w) (hok : PasswordComesFirst e)
    (hstep : (passwordSystem A sha256).step w e = some w') : KnowsPasswords A sha256 w' := by
  cases hstep
  cases e with
  | createUser salt orReplace ifNotExists name password sql owner =>
    exact knowsPasswords_createUser h hok
  | alterUser salt otherOptions ifExists name password sql owner =>
    exact knowsPasswords_alterUser h
  | dropUser ifExists names sql owner => exact knowsPasswords_dropUser h
  | login request time => exact knowsPasswords_login h request time

/-- Before any statement: every user is active, and no password is known. -/
def NothingSet (w : Passwords P) : Prop :=
  (∀ u ∈ w.db.cat.rsUser.rows, u.status = "active") ∧ w.current = fun _ => none

/-- **The current password**: after any run of user statements and logins in which the first quote of
every `CREATE USER` opens the text of its `PASSWORD` option, both protocols let a user in with
exactly the password that was set last. -/
theorem exactLogins_of_run (hA : A.CollisionFree) (hlength : ∀ bytes, (sha256 bytes).length = 32)
    {w w' : Passwords P} (es : List AccountEvent) (hw : NothingSet w)
    (hok : (passwordSystem A sha256).Along (fun _ e => PasswordComesFirst e) w es)
    (hrun : (passwordSystem A sha256).run w es = some w') : ExactLogins A sha256 w' := by
  obtain ⟨hactive, hnone⟩ := hw
  have hstart : KnowsPasswords A sha256 w := by
    refine fun u hu => ⟨hactive u hu, fun p hp => ?_⟩
    rw [hnone] at hp
    cases hp
  exact exactLogins_of_knowsPasswords hA hlength
    (System.invariant (fun _ _ _ h hok hstep => knowsPasswords_step h hok hstep) hstart hok hrun)

/-! ### An option before the password -/

/-- Hashes that are the passwords themselves. -/
def plainArgon2 : Argon2 := ⟨fun _ password => .ok password, fun password hash => password == hash⟩

lemma plainArgon2_collisionFree : plainArgon2.CollisionFree := by
  intro salt password hash h other
  cases h
  exact beq_iff_eq

/-- The first 32 bytes. -/
def firstBytes (bytes : List UInt8) : List UInt8 := (bytes ++ List.replicate 32 0).take 32

lemma length_firstBytes (bytes : List UInt8) : (firstBytes bytes).length = 32 := by
  simp [firstBytes]

def nobody : Passwords Unit := ⟨⟨readersOnly, ()⟩, fun _ => none⟩

lemma nobody_nothingSet : NothingSet nobody := by
  refine ⟨fun u hu => ?_, rfl⟩
  cases hu

/-- A user is created, logs in and gets another password. -/
def bobsPasswords : List AccountEvent :=
  [.createUser "" false false "bob".toList (some "a") "CREATE USER bob PASSWORD = 'a'".toList 10,
    .login ⟨.webApi, "bob", .cleartextPassword "a"⟩ 7,
    .alterUser "" false false "bob".toList (some (some "b")) "ALTER USER bob PASSWORD 'b'".toList 10]

lemma bob_passwordComesFirst : FirstQuoteOpens "a".toList "CREATE USER bob PASSWORD = 'a'".toList :=
  ⟨"CREATE USER bob PASSWORD = ".toList, [], by decide, by decide, by rfl⟩

theorem exactLogins_of_bobsPasswords : ∃ w,
    (passwordSystem plainArgon2 firstBytes).run nobody bobsPasswords = some w ∧
      ExactLogins plainArgon2 firstBytes w :=
  ⟨_, rfl, exactLogins_of_run plainArgon2_collisionFree length_firstBytes bobsPasswords
    nobody_nothingSet ⟨fun _ h => Option.some.inj h ▸ bob_passwordComesFirst, fun _ _ => ⟨trivial, fun _ _ => ⟨trivial, fun _ _ => trivial⟩⟩⟩ rfl⟩

def analystBob : AccountEvent :=
  .createUser "" false false "bob".toList (some "secret")
    "CREATE USER bob DEFAULT_ROLE = 'analyst' PASSWORD = 'secret'".toList 10

/-- The user who is created has the first literal for a password. -/
lemma created_of_setsPassword {H : PasswordHashing} {orReplace ifNotExists : Bool}
    {name sql text : List Char} {rest : List (List Char)} {d : Db P}
    (hquoted : quotedLiterals sql = text :: rest)
    (hsets : (UserStatement.createUser orReplace ifNotExists name).SetsPassword H sql d.cat)
    (owner : ℤ) : ∃ t userId hash,
      (userMutation H (.createUser orReplace ifNotExists name) sql owner).alone d = (.ok 1, t) ∧
      H.hashPassword (String.ofList text) = .ok hash ∧
      userIdByNameOpt t.cat (String.ofList (trim name)) = some userId ∧
      newUser userId (String.ofList (trim name)) hash
        (H.mysqlCachingSha2Verifier (String.ofList text)) ∈ t.cat.rsUser.rows := by
  obtain ⟨b, t, hb, hrun⟩ :=
    (setsPassword_iff (.createUser orReplace ifNotExists name) owner).1 hsets
  have halone := alone_of_runs (calm_userMutation _ _ _ _ _) hb hrun
  obtain ⟨-, -, text', rest', hash, hquoted', hhash, rfl⟩ :=
    (createUserAccount_eq_some (d := d)).1 hb
  cases hquoted.symm.trans hquoted'
  rcases runs_insertUser.1 (Db.runs_onCatalog.1 hrun).1 with ⟨-, -, hn, -⟩ |
    ⟨hnone, -, userId, v, journal, users, readerRole, userRoles, -, -, -, husers, -, -, hcat⟩
  · cases hn
  have husers' : t.cat.rsUser = users := by
    rw [hcat]
    rfl
  refine ⟨t, userId, hash, halone, hhash, ?_, ?_⟩
  · exact userIdByNameOpt_insert (u := newUser userId (String.ofList (trim name)) hash _) hnone
      husers husers'
  · rw [husers', (Table.insert_eq_some.1 husers).2]
    exact List.mem_append_right _ List.mem_cons_self

/-- The user got the name of the role for a password. -/
theorem analystBob_not_exactLogins : ∃ w,
    (passwordSystem plainArgon2 firstBytes).run nobody [analystBob] = some w ∧
      ¬ ExactLogins plainArgon2 firstBytes w := by
  refine ⟨_, rfl, fun h => ?_⟩
  have hquoted : quotedLiterals "CREATE USER bob DEFAULT_ROLE = 'analyst' PASSWORD = 'secret'".toList
      = "analyst".toList :: ["secret".toList] := rfl
  have hsets := setsPassword_bob (H := plainArgon2.hashing firstBytes "") hquoted rfl
  obtain ⟨t, userId, hash, halone, hhash, hid, hmem⟩ :=
    created_of_setsPassword (d := nobody.db) hquoted hsets 10
  have hw : Passwords.step plainArgon2 firstBytes nobody analystBob =
      nobody.settled (.ok 1, t) "bob".toList (some "secret") := by
    rw [← halone]
    rfl
  rw [hw] at h
  have hcurrent : (nobody.settled (.ok 1, t) "bob".toList (some "secret")).current userId =
      some "secret" := if_pos ⟨rfl, hid⟩
  have hlogin := ((h _ hmem "secret" hcurrent).1 "secret").2 rfl
  have hfits := (logsIn_iff (A := plainArgon2) hmem .webApi (.cleartextPassword "secret")).1 hlogin
  cases hhash
  simp [credentialFits, newUser, Argon2.check, plainArgon2] at hfits

end System

end Rsduck.Catalog
