import Geoflow.Dsn.Login
import Geoflow.Proofs.Dsn.Credentials
import Geoflow.Proofs.Url.Path

set_option autoImplicit false

namespace Geoflow.Dsn

open Url

variable {username password dsn : String} {cs : List Char} {address : Address}
  {dialect : Dialect} {params : ConnectParams}

def userPartIn (cs : List Char) : Option (List Char) :=
  (splitUser (cs.takeWhile fun c => !endsAuthority c)).1

def pathIn (cs : List Char) : List Char :=
  (cs.dropWhile fun c => !endsAuthority c).takeWhile fun c => c != '?' && c != '#'

def credentialsIn (dsn : String) : Except Utf8.Fault (String × String) := do
  let (user, secret) := Login.splitPassword ((userPartIn (Login.afterScheme dsn.toList)).getD [])
  return (String.ofList (← Percent.decode user), String.ofList (← Percent.decode secret))

def databaseIn (dsn : String) : Except Utf8.Fault String := do
  return String.ofList (← Percent.decode ((pathIn (Login.afterScheme dsn.toList)).drop 1))

theorem afterScheme_name (dialect : Dialect) (cs : List Char) :
    Login.afterScheme (dialect.driver.toList ++ "://".toList ++ cs) = cs := by
  cases dialect <;> rfl

def credentials (username password : List Char) : List Char :=
  Percent.encode Percent.inUserInfo username ++
    if password.isEmpty then [] else ':' :: Percent.encode Percent.inUserInfo password

theorem userInfo_eq (username password : List Char) : userInfo username password =
    if username.isEmpty && password.isEmpty then [] else credentials username password ++ ['@'] :=
  rfl

theorem credentials_not_endsAuthority (username password : List Char) :
    ∀ c ∈ credentials username password, endsAuthority c = false := by
  have colon : endsAuthority ':' = false := rfl
  refine List.forall_mem_append.mpr ⟨(plain_encode username).not_endsAuthority, ?_⟩
  split
  · exact fun c none => absurd none List.not_mem_nil
  · exact List.forall_mem_cons.mpr ⟨colon, (plain_encode password).not_endsAuthority⟩

/-- The first colon of the user part stands before the password. -/
theorem splitPassword_credentials (username password : List Char) :
    Login.splitPassword (credentials username password) =
      (Percent.encode Percent.inUserInfo username, Percent.encode Percent.inUserInfo password) := by
  have noColon : ∀ c ∈ Percent.encode Percent.inUserInfo username, (c != ':') = true := by
    intro c mem
    refine bne_iff_ne.mpr fun colon => plain_encode username c mem ?_
    rw [colon]
    decide
  rw [credentials, Login.splitPassword, List.takeWhile_append_of_pos noColon,
    List.dropWhile_append_of_pos noColon]
  split
  · rename_i empty
    rw [List.isEmpty_iff.mp empty]
    exact congrArg (·, []) (List.append_nil _)
  · exact congrArg (·, _) (List.append_nil _)

theorem splitPassword_userPartIn (username password more : List Char) {host : List Char}
    (unbroken : Unbroken host) :
    Login.splitPassword
        ((userPartIn (userInfo username password ++ (host ++ '/' :: more))).getD []) =
      (Percent.encode Percent.inUserInfo username, Percent.encode Percent.inUserInfo password) := by
  rw [userPartIn, userInfo_eq]
  split
  · rename_i absent
    obtain ⟨noName, noPassword⟩ := Bool.and_eq_true_iff.mp absent
    rw [List.nil_append, splitUser_server unbroken, List.isEmpty_iff.mp noName,
      List.isEmpty_iff.mp noPassword]
    rfl
  · rw [splitUser_userPart (credentials_not_endsAuthority username password) unbroken]
    exact splitPassword_credentials username password

def behindPath (dialect : Dialect) (address : Address) : List Char :=
  withMark '?' (query dialect address.query) ++ withMark '#' address.fragment

theorem head?_behindPath (dialect : Dialect) (address : Address) :
    ∀ c ∈ (behindPath dialect address).head?, c = '?' ∨ c = '#' := by
  intro c first
  unfold behindPath at first
  cases given : query dialect address.query with
  | some text =>
    rw [given, withMark, List.cons_append, List.head?_cons, Option.mem_some_iff] at first
    exact .inl first.symm
  | none =>
    rw [given, withMark, List.nil_append] at first
    cases fragment : address.fragment with
    | some text =>
      rw [fragment, withMark, List.head?_cons, Option.mem_some_iff] at first
      exact .inr first.symm
    | none =>
      rw [fragment] at first
      cases first

/-- A path ends where query or fragment start. -/
theorem path_ends {path behind : List Char}
    (unmarked : ∀ mark, mark = '?' ∨ mark = '#' → mark ∉ path)
    (ends : ∀ c ∈ behind.head?, c = '?' ∨ c = '#') :
    (path ++ behind).takeWhile (fun c => c != '?' && c != '#') = path ∧
      (path ++ behind).dropWhile (fun c => c != '?' && c != '#') = behind := by
  have inPath : ∀ c ∈ path, (c != '?' && c != '#') = true := by
    intro c mem
    have notMark : ¬(c = '?' ∨ c = '#') := fun mark => unmarked c mark mem
    simpa [not_or] using notMark
  rw [List.takeWhile_append_of_pos inPath, List.dropWhile_append_of_pos inPath]
  cases behind with
  | nil => exact ⟨List.append_nil path, rfl⟩
  | cons c rest =>
    rcases ends c rfl with rfl | rfl
    · exact ⟨List.append_nil path, rfl⟩
    · exact ⟨List.append_nil path, rfl⟩

theorem UserPart.not_endsAuthority {part : List Char} (form : UserPart username password part) :
    ∀ c ∈ part, endsAuthority c = false := by
  have goesOn : endsAuthority '@' = false := rfl
  rcases form.eq_nil_or_body with rfl | ⟨body, rfl, inBody⟩
  · exact fun c none => absurd none List.not_mem_nil
  · exact List.forall_mem_append.mpr ⟨inBody, List.forall_mem_cons.mpr
      ⟨goesOn, fun c none => absurd none List.not_mem_nil⟩⟩

/-- Behind the authority there are the path of the database, query and fragment. -/
theorem dropWhile_assemble (read : Address.read cs = .ok address) :
    (Login.afterScheme (assemble dialect params address)).dropWhile (fun c => !endsAuthority c) =
      path params.database.toList ++ behindPath dialect address := by
  have form := userPart_userInfo params.username params.password
  have inHost : ∀ c ∈ server address, endsAuthority c = false :=
    fun c mem => (Bool.or_eq_false_iff.mp (unbroken_server read c mem)).2
  have goesOn : ∀ c ∈ userInfo params.username.toList params.password.toList ++ server address,
      (!endsAuthority c) = true := by
    intro c mem
    rw [List.forall_mem_append.mpr ⟨form.not_endsAuthority, inHost⟩ c mem, Bool.not_false]
  obtain ⟨more, slash⟩ := tail_eq_slash_cons dialect params.database address
  have whole : tail dialect params.database address =
      path params.database.toList ++ behindPath dialect address := List.append_assoc _ _ _
  rw [assemble_eq, afterScheme_name, ← List.append_assoc, List.dropWhile_append_of_pos goesOn,
    ← whole, slash]
  rfl

/-- A name is put together from an address that host and port make. -/
theorem exists_address (built : build dialect params = .ok dsn) : ∃ address,
    Address.read (addressText params) = .ok address ∧
      dsn = String.ofList (assemble dialect params address) := by
  unfold build at built
  split at built
  · cases built
  · rename_i address read
    split at built
    · cases built
    · exact ⟨address, read, (Except.ok.inj built).symm⟩

theorem credentialsIn_eq (built : build dialect params = .ok dsn) : credentialsIn dsn = do
    return (String.ofList (← Percent.decode params.username.toList),
      String.ofList (← Percent.decode params.password.toList)) := by
  obtain ⟨address, read, rfl⟩ := exists_address built
  obtain ⟨more, slash⟩ := tail_eq_slash_cons dialect params.database address
  have found := splitPassword_userPartIn params.username.toList params.password.toList more
    (unbroken_server read)
  rw [credentialsIn, String.toList_ofList, assemble_eq, afterScheme_name, slash, found]
  dsimp only
  rw [Percent.decode_encode Percent.covers_inUserInfo Percent.spares_inUserInfo,
    Percent.decode_encode Percent.covers_inUserInfo Percent.spares_inUserInfo]

theorem databaseIn_eq (built : build dialect params = .ok dsn) : databaseIn dsn = do
    return String.ofList (← Percent.decode ((path params.database.toList).drop 1)) := by
  obtain ⟨address, read, rfl⟩ := exists_address built
  have found : pathIn (Login.afterScheme (assemble dialect params address)) =
      path params.database.toList := by
    rw [pathIn, dropWhile_assemble read]
    exact (path_ends (fun mark ends => not_mem_pathOf ends _) (head?_behindPath dialect address)).1
  rw [databaseIn, String.toList_ofList, found]

theorem ofList_eq_iff {s : String} : String.ofList cs = s ↔ cs = s.toList := by
  constructor
  · rintro rfl
    exact String.toList_ofList.symm
  · rintro rfl
    exact String.ofList_toList

theorem credentialsIn_eq_iff (built : build dialect params = .ok dsn) :
    credentialsIn dsn = .ok (params.username, params.password) ↔
      ¬Percent.HasEscape params.username.toList ∧ ¬Percent.HasEscape params.password.toList := by
  rw [credentialsIn_eq built, bind_eq_ok_iff]
  constructor
  · rintro ⟨user, readUser, later⟩
    obtain ⟨secret, readSecret, same⟩ := bind_eq_ok_iff.mp later
    obtain ⟨sameUser, sameSecret⟩ := Prod.mk.inj (Except.ok.inj same)
    rw [ofList_eq_iff.mp sameUser] at readUser
    rw [ofList_eq_iff.mp sameSecret] at readSecret
    exact ⟨Percent.decode_self_iff.mp readUser, Percent.decode_self_iff.mp readSecret⟩
  · rintro ⟨userPlain, secretPlain⟩
    refine ⟨_, Percent.decode_self_iff.mpr userPlain, bind_eq_ok_iff.mpr
      ⟨_, Percent.decode_self_iff.mpr secretPlain, ?_⟩⟩
    rw [String.ofList_toList, String.ofList_toList]
    rfl

theorem databaseIn_eq_iff (built : build dialect params = .ok dsn) :
    databaseIn dsn = .ok params.database ↔ Settled params.database.toList := by
  rw [databaseIn_eq built, bind_eq_ok_iff, ← decode_pathOf_iff]
  constructor
  · rintro ⟨text, read, same⟩
    rw [ofList_eq_iff.mp (Except.ok.inj same)] at read
    exact read
  · intro read
    refine ⟨_, read, ?_⟩
    rw [String.ofList_toList]
    rfl

/-- Credentials and database that can be told from any name that carries them. -/
structure Carried (params : ConnectParams) : Prop where
  username : ¬Percent.HasEscape params.username.toList
  password : ¬Percent.HasEscape params.password.toList
  database : Settled params.database.toList

/-- A reader finds what was put in, decoded once more. So credentials come back exactly if neither
has an escape, and the database exactly if its path is settled; among such parameters a name has
only one origin. -/
theorem read_back_iff (built : build dialect params = .ok dsn) :
    (credentialsIn dsn = do
      return (String.ofList (← Percent.decode params.username.toList),
        String.ofList (← Percent.decode params.password.toList))) ∧
    (credentialsIn dsn = .ok (params.username, params.password) ↔
      ¬Percent.HasEscape params.username.toList ∧ ¬Percent.HasEscape params.password.toList) ∧
    (databaseIn dsn = .ok params.database ↔ Settled params.database.toList) ∧
    ∀ other : ConnectParams, other.host = params.host → other.port = params.port →
      build dialect other = .ok dsn → Carried params → Carried other → other = params := by
  refine ⟨credentialsIn_eq built, credentialsIn_eq_iff built, databaseIn_eq_iff built, ?_⟩
  intro other sameHost samePort builtOther carried carriedOther
  have credentials := (credentialsIn_eq_iff built).mpr ⟨carried.username, carried.password⟩
  rw [(credentialsIn_eq_iff builtOther).mpr ⟨carriedOther.username, carriedOther.password⟩]
    at credentials
  have database := (databaseIn_eq_iff built).mpr carried.database
  rw [(databaseIn_eq_iff builtOther).mpr carriedOther.database] at database
  obtain ⟨sameUser, samePassword⟩ := Prod.mk.inj (Except.ok.inj credentials)
  cases other
  cases params
  simp only at sameHost samePort sameUser samePassword database
  rw [sameHost, samePort, sameUser, samePassword, Except.ok.inj database]

/-- A percent sign that no digits follow, letters beyond ASCII, and marks of all other parts. -/
def worded : ConnectParams := ⟨"db", 5432, "crm/x y", "étl", "50% p@ss:w/rd"⟩

theorem carried_worded : Carried worded where
  username := by decide
  password := by decide
  database.noIgnored _ mem := Bool.eq_false_iff.mpr (List.any_eq_false.mp rfl _ mem)
  database.noDots := by decide
  database.noEscape := by decide

def wordedName : String :=
  "postgres://%C3%A9tl:50%%20p%40ss%3Aw%2Frd@db:5432/crm/x%20y?sslmode=disable"

theorem read_back_iff_worded : build .postgres worded = .ok wordedName ∧
    credentialsIn wordedName = .ok (worded.username, worded.password) ∧
    databaseIn wordedName = .ok worded.database := by
  have built : build .postgres worded = .ok wordedName := rfl
  obtain ⟨-, credentials, database, -⟩ := read_back_iff built
  exact ⟨built, credentials.mpr ⟨carried_worded.username, carried_worded.password⟩,
    database.mpr carried_worded.database⟩

def plainParams : ConnectParams := ⟨"db", 5432, "crm", "etl", "p@ss"⟩

def plainName : String := "postgres://etl:p%40ss@db:5432/crm?sslmode=disable"

/-- A password that looks encoded has the name of another password, and that one is read. The
database has one of many spellings of the same path. -/
theorem escape_read_as_octet :
    build .postgres plainParams = .ok plainName ∧
    build .postgres { plainParams with password := "p%40ss" } = .ok plainName ∧
    build .postgres { plainParams with database := "x/../crm" } = .ok plainName ∧
    credentialsIn plainName = .ok ("etl", "p@ss") ∧ "p@ss" ≠ "p%40ss" := by
  have built : build .postgres plainParams = .ok plainName := rfl
  exact ⟨built, rfl, rfl, (credentialsIn_eq_iff built).mpr ⟨by decide, by decide⟩, by decide⟩

end Geoflow.Dsn
