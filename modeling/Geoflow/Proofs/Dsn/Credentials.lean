import Geoflow.Dsn.Build
import Geoflow.Proofs.Url.Authority

set_option autoImplicit false

namespace Geoflow.Dsn

open Url

variable {username password : String} {cs : List Char} {address : Address}

def Plain (cs : List Char) : Prop := ∀ c ∈ cs, c ∉ ['@', '/', '?', '#', ':']

/-- The forms of a user part: none without credentials, else up to an at sign, with a colon in
front of a password only. -/
inductive UserPart (username password : String) : List Char → Prop
  | absent (noName : username = "") (noPassword : password = "") : UserPart username password []
  | name {user : List Char} (named : username ≠ "") (noPassword : password = "")
      (plain : Plain user) : UserPart username password (user ++ ['@'])
  | full {user secret : List Char} (given : password ≠ "") (plain : Plain user)
      (plainSecret : Plain secret) (some : secret ≠ []) :
      UserPart username password (user ++ ':' :: secret ++ ['@'])

theorem isHidden_of_separates {c : Char} (separates : c ∈ ['@', '/', '?', '#', ':']) :
    Percent.isAdded c = false ∧ Percent.inUserInfo (Percent.ascii c) = true := by
  simp only [List.mem_cons, List.not_mem_nil, or_false] at separates
  rcases separates with rfl | rfl | rfl | rfl | rfl <;> exact ⟨rfl, rfl⟩

theorem plain_encode (cs : List Char) : Plain (Percent.encode Percent.inUserInfo cs) := by
  intro c mem separates
  obtain ⟨notAdded, hidden⟩ := isHidden_of_separates separates
  have kept := (Percent.mem_encode Percent.covers_inUserInfo mem notAdded).2
  rw [hidden] at kept
  cases kept

theorem toList_isEmpty (s : String) : s.toList.isEmpty = true ↔ s = "" := by
  rw [List.isEmpty_iff, String.toList_eq_nil_iff]

theorem userPart_userInfo (username password : String) :
    UserPart username password (userInfo username.toList password.toList) := by
  have plain := plain_encode username.toList
  by_cases noPassword : password = ""
  · have emptyPassword := (toList_isEmpty password).mpr noPassword
    by_cases noName : username = ""
    · have emptyName := (toList_isEmpty username).mpr noName
      have form : userInfo username.toList password.toList = [] := by
        simp only [userInfo, emptyPassword, emptyName, Bool.and_self, if_true]
      rw [form]
      exact .absent noName noPassword
    · have someName : username.toList.isEmpty = false :=
        Bool.eq_false_iff.mpr (mt (toList_isEmpty username).mp noName)
      have form : userInfo username.toList password.toList =
          Percent.encode Percent.inUserInfo username.toList ++ ['@'] := by
        simp only [userInfo, emptyPassword, someName, Bool.and_true, if_true, List.append_nil]
        rfl
      rw [form]
      exact .name noName noPassword plain
  · have somePassword : password.toList.isEmpty = false :=
      Bool.eq_false_iff.mpr (mt (toList_isEmpty password).mp noPassword)
    have form : userInfo username.toList password.toList =
        Percent.encode Percent.inUserInfo username.toList ++
          ':' :: Percent.encode Percent.inUserInfo password.toList ++ ['@'] := by
      simp only [userInfo, somePassword, Bool.and_false]
      rfl
    have notEmpty : password.toList ≠ [] := List.isEmpty_eq_false_iff.mp somePassword
    rw [form]
    exact .full noPassword plain (plain_encode _) (Percent.encode_ne_nil notEmpty)

def server (address : Address) : List Char :=
  address.host ++ withMark ':' (address.port.map Numeral.digits)

def tail (dialect : Dialect) (database : String) (address : Address) : List Char :=
  path database.toList ++ withMark '?' (query dialect address.query)
    ++ withMark '#' address.fragment

theorem unbroken_server (read : Address.read cs = .ok address) : Unbroken (server address) := by
  have colon : isBreak ':' = false := rfl
  simp only [Address.read, bind_eq_ok_iff] at read
  obtain ⟨authority, fromText, whole⟩ := read
  cases whole
  obtain ⟨text, fromHost⟩ := Authority.exists_readHost fromText
  refine (unbroken_of_readOpaqueHost fromHost).append ?_
  cases port : authority.port with
  | none => exact unbroken_nil
  | some n => exact .cons colon (unbroken_toDigits (by omega) n)

theorem tail_eq_slash_cons (dialect : Dialect) (database : String) (address : Address) :
    ∃ more, tail dialect database address = '/' :: more := by
  obtain ⟨more, form⟩ := pathOf_eq_slash_cons
    (Text.splitAt_ne_nil '/' (database.toList.filter fun c => !isIgnored c))
  rw [tail, path, form]
  exact ⟨_, rfl⟩

theorem Plain.not_endsAuthority (plain : Plain cs) : ∀ c ∈ cs, endsAuthority c = false := by
  intro c mem
  refine Bool.eq_false_iff.mpr fun inside => plain c mem ?_
  have cases : c = '/' ∨ c = '?' ∨ c = '#' := by
    simpa only [endsAuthority, Bool.or_eq_true, beq_iff_eq, or_assoc] using inside
  rcases cases with rfl | rfl | rfl <;> decide

theorem UserPart.eq_nil_or_body {part : List Char} (form : UserPart username password part) :
    part = [] ∨ ∃ body, part = body ++ ['@'] ∧ ∀ c ∈ body, endsAuthority c = false := by
  cases form with
  | absent => exact .inl rfl
  | name _ _ plain => exact .inr ⟨_, rfl, plain.not_endsAuthority⟩
  | full _ plain plainSecret =>
    have colon : endsAuthority ':' = false := rfl
    refine .inr ⟨_, rfl, List.forall_mem_append.mpr ⟨plain.not_endsAuthority, ?_⟩⟩
    exact List.forall_mem_cons.mpr ⟨colon, plainSecret.not_endsAuthority⟩

/-- Where a name has no user part, the text up to its path is host and port. -/
theorem splitUser_server {host more : List Char} (unbroken : Unbroken host) :
    splitUser ((host ++ '/' :: more).takeWhile fun c => !endsAuthority c) = (none, host) := by
  have inHost : ∀ c ∈ host, endsAuthority c = false :=
    fun c mem => (Bool.or_eq_false_iff.mp (unbroken c mem)).2
  rw [takeWhile_append_path inHost, splitUser_of_not_mem unbroken.not_mem_at]

/-- A user part ends at the last at sign before the path. -/
theorem splitUser_userPart {body host more : List Char}
    (inBody : ∀ c ∈ body, endsAuthority c = false) (unbroken : Unbroken host) :
    splitUser ((body ++ ['@'] ++ (host ++ '/' :: more)).takeWhile fun c => !endsAuthority c) =
      (some body, host) := by
  have inHost : ∀ c ∈ host, endsAuthority c = false :=
    fun c mem => (Bool.or_eq_false_iff.mp (unbroken c mem)).2
  have goesOn : endsAuthority '@' = false := rfl
  have inside : ∀ c ∈ body ++ '@' :: host, endsAuthority c = false :=
    List.forall_mem_append.mpr ⟨inBody, List.forall_mem_cons.mpr ⟨goesOn, inHost⟩⟩
  have whole : body ++ ['@'] ++ (host ++ '/' :: more) = (body ++ '@' :: host) ++ '/' :: more := by
    simp only [List.append_assoc, List.cons_append, List.nil_append]
  rw [whole, takeWhile_append_path inside, splitUser_append unbroken.not_mem_at]

/-- The text that a reader of addresses takes for host and port. -/
def serverIn (cs : List Char) : List Char :=
  (splitUser (cs.takeWhile fun c => !endsAuthority c)).2

theorem serverIn_name {part host rest more : List Char} (form : UserPart username password part)
    (unbroken : Unbroken host) (slash : rest = '/' :: more) :
    serverIn (part ++ (host ++ rest)) = host := by
  rw [serverIn, slash]
  rcases form.eq_nil_or_body with rfl | ⟨body, rfl, inBody⟩
  · rw [List.nil_append, splitUser_server unbroken]
  · rw [splitUser_userPart inBody unbroken]

/-- A data source name in its parts. -/
structure InParts (dialect : Dialect) (params : ConnectParams) (part host rest : List Char) :
    Prop where
  name : build dialect params =
    .ok (String.ofList (dialect.driver.toList ++ "://".toList ++ (part ++ (host ++ rest))))
  user : UserPart params.username params.password part
  found : serverIn (part ++ (host ++ rest)) = host

def addressText (params : ConnectParams) : List Char :=
  params.host.toList ++ ':' :: Numeral.digits params.port.toNat

theorem assemble_eq (dialect : Dialect) (params : ConnectParams) (address : Address) :
    assemble dialect params address = dialect.driver.toList ++ "://".toList ++
      (userInfo params.username.toList params.password.toList ++
        (server address ++ tail dialect params.database address)) := by
  simp only [assemble, server, tail, List.append_assoc]

theorem build_inParts {dialect : Dialect} {params : ConnectParams}
    (read : Address.read (addressText params) = .ok address) (hosted : address.host ≠ []) :
    InParts dialect params (userInfo params.username.toList params.password.toList)
      (server address) (tail dialect params.database address) := by
  have form := userPart_userInfo params.username params.password
  have notEmpty : ¬address.host.isEmpty = true := mt List.isEmpty_iff.mp hosted
  obtain ⟨more, slash⟩ := tail_eq_slash_cons dialect params.database address
  refine ⟨?_, form, serverIn_name form (unbroken_server read) slash⟩
  rw [addressText] at read
  simp only [build, read, if_neg notEmpty, assemble_eq]

theorem build_fault {params : ConnectParams}
    (refused : ∀ address, Address.read (addressText params) = .ok address → address.host = []) :
    ∃ fault, ∀ dialect (params' : ConnectParams), addressText params' = addressText params →
      build dialect params' = .error fault := by
  cases read : Address.read (addressText params) with
  | error fault =>
    refine ⟨.connection (.address fault), fun dialect params' same => ?_⟩
    rw [← same, addressText] at read
    simp only [build, read]
  | ok address =>
    refine ⟨.connection .username, fun dialect params' same => ?_⟩
    have empty := List.isEmpty_iff.mpr (refused address read)
    rw [← same, addressText] at read
    simp only [build, read, if_pos empty]

/-- Only host and port decide whether there is a name. Credentials stay in the user part, and
neither they nor the database change the server. -/
theorem credentials_confined (dialect : Dialect) {a b : ConnectParams} (sameHost : a.host = b.host)
    (samePort : a.port = b.port) :
    (∃ fault, build dialect a = .error fault ∧ build dialect b = .error fault) ∨
      ∃ host userA userB restA restB,
        InParts dialect a userA host restA ∧ InParts dialect b userB host restB ∧
        (a.database = b.database → restA = restB) := by
  have sameText : addressText b = addressText a := by
    rw [addressText, addressText, sameHost, samePort]
  by_cases hosted : ∃ address, Address.read (addressText a) = .ok address ∧ address.host ≠ []
  · obtain ⟨address, read, some⟩ := hosted
    have readB : Address.read (addressText b) = .ok address := sameText ▸ read
    refine .inr ⟨_, _, _, _, _, build_inParts read some, build_inParts readB some, ?_⟩
    intro sameDatabase
    rw [sameDatabase]
  · have refused : ∀ address, Address.read (addressText a) = .ok address → address.host = [] := by
      intro address read
      by_cases empty : address.host = []
      · exact empty
      · exact absurd ⟨address, read, empty⟩ hosted
    obtain ⟨fault, fails⟩ := build_fault refused
    exact .inl ⟨fault, fails dialect a rfl, fails dialect b sameText⟩

/-- Credentials full of separators, and a host text with a user part of its own. -/
def hostile : ConnectParams :=
  ⟨"x:y@db", 5432, "crm", "etl", "p@ss:w/rd?#"⟩

def anonymous : ConnectParams := { hostile with username := "", password := "" }

theorem credentials_confined_hostile :
    hostile.host = anonymous.host ∧ hostile.port = anonymous.port ∧
      ∃ host userA userB rest, InParts .postgres hostile userA host rest ∧
        InParts .postgres anonymous userB host rest := by
  refine ⟨rfl, rfl, ?_⟩
  rcases credentials_confined .postgres (a := hostile) (b := anonymous) rfl rfl with
    ⟨fault, -, fails⟩ | ⟨host, userA, userB, restA, restB, partsA, partsB, same⟩
  · have name : build .postgres anonymous = .ok "postgres://db:5432/crm?sslmode=disable" := rfl
    rw [name] at fails
    cases fails
  · cases same rfl
    exact ⟨host, userA, userB, restA, partsA, partsB⟩

end Geoflow.Dsn
