import Geoflow.Proofs.Dsn.ReadBack
import Geoflow.Proofs.Url.Host

set_option autoImplicit false

namespace Geoflow.Dsn

open Url

variable {dialect : Dialect} {params : ConnectParams} {address : Address} {dsn : String}
  {cs host text : List Char}

def tailIn (cs : List Char) : List Char :=
  (cs.dropWhile fun c => !endsAuthority c).dropWhile fun c => c != '?' && c != '#'

def ownTail : Dialect → List Char
  | .postgres => "?sslmode=disable".toList
  | .mysql => []

/-- How a host stands in a name: as the whole text, encoded, or as the normal form of the address
that it has in brackets. -/
inductive WrittenHost : List Char → List Char → Prop
  | name {host : List Char} (bare : host.head? ≠ some '[') :
    WrittenHost host (Percent.encode Percent.controls host)
  | address {inner : List Char} {ns : List Nat} (read : Ipv6.read? inner = some ns) :
    WrittenHost ('[' :: inner ++ [']']) ('[' :: Ipv6.render ns ++ [']'])

/-- The name leads to the configured host and port, with the dialect's own query and nothing else
behind the path. -/
structure Reaches (dialect : Dialect) (params : ConnectParams) (dsn : String) : Prop where
  server : ∃ host, WrittenHost params.host.toList host ∧
    serverIn (Login.afterScheme dsn.toList) = host ++ ':' :: Numeral.digits params.port.toNat
  tail : tailIn (Login.afterScheme dsn.toList) = ownTail dialect

theorem writtenHost_of_isHost (isHost : IsHost host text) : WrittenHost host text := by
  cases isHost with
  | @name cs some allowed =>
    apply WrittenHost.name
    intro bracket
    cases allowed '[' (List.mem_of_head? bracket)
  | address read => exact WrittenHost.address read

theorem serverIn_assemble (read : Address.read cs = .ok address) :
    serverIn (Login.afterScheme (assemble dialect params address)) = server address := by
  have form := userPart_userInfo params.username params.password
  obtain ⟨more, slash⟩ := tail_eq_slash_cons dialect params.database address
  rw [assemble_eq, afterScheme_name]
  exact serverIn_name form (unbroken_server read) slash

theorem tailIn_assemble (read : Address.read cs = .ok address) :
    tailIn (Login.afterScheme (assemble dialect params address)) = behindPath dialect address := by
  rw [tailIn, dropWhile_assemble read]
  exact (path_ends (fun mark ends => not_mem_pathOf ends _) (head?_behindPath dialect address)).2

/-- A name leads to the configured server exactly if the address that it is made from does. -/
theorem reaches_iff (read : Address.read cs = .ok address) :
    Reaches dialect params (String.ofList (assemble dialect params address)) ↔
      (∃ host, WrittenHost params.host.toList host ∧
        server address = host ++ ':' :: Numeral.digits params.port.toNat) ∧
      behindPath dialect address = ownTail dialect := by
  constructor
  · intro reaches
    have found := reaches.server
    have behind := reaches.tail
    rw [String.toList_ofList, serverIn_assemble read] at found
    rw [String.toList_ofList, tailIn_assemble read] at behind
    exact ⟨found, behind⟩
  · intro parts
    constructor
    · rw [String.toList_ofList, serverIn_assemble read]
      exact parts.1
    · rw [String.toList_ofList, tailIn_assemble read]
      exact parts.2

theorem addressText_not_diverting (plain : ∀ c ∈ params.host.toList, c ∉ diverting) :
    ∀ c ∈ addressText params, c ∉ diverting := by
  intro c mem
  rcases List.mem_append.mp mem with inHost | behind
  · exact plain c inHost
  · rcases List.mem_cons.mp behind with rfl | inPort
    · decide
    · exact digits_not_diverting _ c inPort

theorem filter_addressText (plain : ∀ c ∈ params.host.toList, c ∉ diverting) :
    (addressText params).filter (fun c => !isIgnored c) = addressText params := by
  apply List.filter_eq_self.mpr
  intro c mem
  rw [isIgnored_of_not_mem_diverting (addressText_not_diverting plain c mem), Bool.not_false]

theorem port_le_maxPort (params : ConnectParams) : params.port.toNat ≤ maxPort :=
  Nat.le_of_lt_succ params.port.toNat_lt

/-- A whole host makes an address of that host and the port, and of nothing else. -/
theorem read_addressText (isHost : IsHost params.host.toList text) :
    Address.read (addressText params) = .ok ⟨text, some params.port.toNat, none, none⟩ := by
  have authority := isHost.read_authority (port_le_maxPort params)
  rw [Address.read, filter_addressText isHost.not_diverting, addressText, authority]
  rfl

theorem exists_reaches (dialect : Dialect) (isHost : IsHost params.host.toList text) :
    ∃ dsn, build dialect params = .ok dsn ∧ Reaches dialect params dsn := by
  have read := read_addressText isHost
  have hosted : ¬text.isEmpty = true := mt List.isEmpty_iff.mp isHost.ne_nil
  refine ⟨String.ofList (assemble dialect params ⟨text, some params.port.toNat, none, none⟩),
    ?_, ?_⟩
  · rw [addressText] at read
    simp only [build, read, if_neg hosted]
  · apply (reaches_iff read).mpr
    constructor
    · exact ⟨text, writtenHost_of_isHost isHost, rfl⟩
    · cases dialect <;> rfl

/-- Without a character that diverts it, only a whole host makes a name. -/
theorem isHost_of_read (read : Address.read (addressText params) = .ok address)
    (hosted : address.host ≠ []) (plain : ∀ c ∈ params.host.toList, c ∉ diverting) :
    IsHost params.host.toList address.host := by
  have unbroken := unbroken_host_port plain params.port.toNat
  simp only [Address.read, bind_eq_ok_iff] at read
  obtain ⟨authority, fromText, whole⟩ := read
  cases whole
  rw [filter_addressText plain] at fromText
  obtain ⟨front, behind, after, parts, colon, fromHost, fromPort⟩ :=
    Authority.exists_server fromText
  have text : front ++ behind = addressText params := by
    rw [parts, addressText, splitUser_of_unbroken unbroken]
  have isHost := isHost_of_readOpaqueHost fromHost hosted
  cases behind with
  | nil =>
    rw [List.append_nil] at text
    rw [text] at isHost
    exact absurd (isHost.closed _ (Or.inl rfl)) (not_closed_append_port _ _)
  | cons c rest =>
    have mark : c = ':' := colon c rfl
    subst mark
    have absent : '\\' ∉ rest := by
      intro mem
      have inText : '\\' ∈ addressText params := by
        rw [← text]
        simp [mem]
      exact absurd (by decide) (addressText_not_diverting plain _ inText)
    have inPort := colon_not_mem_of_readPort fromPort absent
    have same := Text.append_cons_inj text inPort (colon_not_mem_digits _)
    rw [← same.1]
    exact isHost

/-- Host and port of an address are a part of the text that it is read from. -/
theorem exists_server_sublist (read : Address.read cs = .ok address) : ∃ front behind after,
    (front ++ behind).Sublist cs ∧ (∀ c ∈ behind.head?, c = ':') ∧
      readOpaqueHost front = .ok address.host ∧ readPort behind = .ok (address.port, after) := by
  simp only [Address.read, bind_eq_ok_iff] at read
  obtain ⟨authority, fromText, whole⟩ := read
  cases whole
  obtain ⟨front, behind, after, parts, colon, fromHost, fromPort⟩ :=
    Authority.exists_server fromText
  refine ⟨front, behind, after, ?_, colon, fromHost, fromPort⟩
  rw [parts]
  apply (splitUser_sublist _).trans
  apply (List.takeWhile_sublist _).trans
  exact List.filter_sublist

/-- A name in which a bare host stands whole is made from that host. -/
theorem isHost_of_server (read : Address.read (addressText params) = .ok address)
    (hosted : address.host ≠ []) (bare : params.host.toList.head? ≠ some '[')
    (whole : server address = Percent.encode Percent.controls params.host.toList ++
      ':' :: Numeral.digits params.port.toNat) : IsHost params.host.toList address.host := by
  obtain ⟨front, behind, after, inside, colon, fromHost, fromPort⟩ := exists_server_sublist read
  obtain ⟨text, port, query, fragment⟩ := address
  have isHost : IsHost front text := isHost_of_readOpaqueHost fromHost hosted
  cases port with
  | none =>
    have noPort : text = Percent.encode Percent.controls params.host.toList ++
        ':' :: Numeral.digits params.port.toNat := by
      simpa [server, withMark] using whole
    have closed := isHost.closed _ (Or.inr rfl)
    rw [noPort] at closed
    exact absurd closed (not_closed_append_port _ _)
  | some n =>
    have same := Text.append_cons_inj whole (colon_not_mem_digits n) (colon_not_mem_digits _)
    have written : text = Percent.encode Percent.controls params.host.toList := same.1
    obtain ⟨rest, mark⟩ : ∃ rest, behind = ':' :: rest := by
      cases behind with
      | nil => cases fromPort
      | cons c rest => exact ⟨rest, congrArg (· :: rest) (colon c rfl)⟩
    rw [mark] at inside
    have part := Text.sublist_of_append_cons_sublist inside (colon_not_mem_digits _)
    cases isHost with
    | name some allowed =>
      rw [← Percent.eq_of_encode_eq part written]
      exact IsHost.name some allowed
    | address => exact absurd (Percent.head?_of_encode_eq_bracket written.symm) bare

theorem hosted_of_built (read : Address.read (addressText params) = .ok address)
    (built : build dialect params = .ok dsn) : address.host ≠ [] := by
  intro empty
  rw [addressText] at read
  simp [build, read, empty] at built

theorem code_of_refused {fault : ExtractError} (refused : build dialect params = .error fault) :
    fault.code = "CONNECTION_ERROR" := by
  unfold build at refused
  split at refused
  · cases refused
    rfl
  · split at refused
    · cases refused
      rfl
    · cases refused

theorem isHost_of_reaches (built : build dialect params = .ok dsn)
    (reaches : Reaches dialect params dsn) : ∃ text, IsHost params.host.toList text := by
  obtain ⟨address, read, whole⟩ := exists_address built
  have hosted := hosted_of_built read built
  rw [whole] at reaches
  obtain ⟨⟨host, written, found⟩, -⟩ := (reaches_iff read).mp reaches
  generalize given : params.host.toList = cs at written
  cases written with
  | name bare =>
    rw [← given] at bare found
    have isHost := isHost_of_server read hosted bare found
    rw [given] at isHost
    exact ⟨_, isHost⟩
  | address readInner => exact ⟨_, IsHost.address readInner⟩

theorem reaches_of_plain (built : build dialect params = .ok dsn)
    (plain : ∀ c ∈ params.host.toList, c ∉ diverting) : Reaches dialect params dsn := by
  obtain ⟨address, read, -⟩ := exists_address built
  have isHost := isHost_of_read read (hosted_of_built read built) plain
  obtain ⟨name, same, reaches⟩ := exists_reaches dialect isHost
  rw [built] at same
  rw [Except.ok.inj same]
  exact reaches

/-- Every refusal is a connection error. There is a name that leads to the configured server exactly
if the host is a whole one; and of the names that there are, those do whose host has none of the
characters that are passed over or put a part of it into another component. -/
theorem reaches_configured_iff (dialect : Dialect) (params : ConnectParams) :
    (∀ fault, build dialect params = .error fault → fault.code = "CONNECTION_ERROR") ∧
    ((∃ dsn, build dialect params = .ok dsn ∧ Reaches dialect params dsn) ↔
      ∃ text, IsHost params.host.toList text) ∧
    ∀ dsn, build dialect params = .ok dsn →
      (Reaches dialect params dsn ↔ ∀ c ∈ params.host.toList, c ∉ diverting) := by
  refine ⟨fun fault refused => code_of_refused refused, ?_, ?_⟩
  · constructor
    · intro named
      obtain ⟨dsn, built, reaches⟩ := named
      exact isHost_of_reaches built reaches
    · intro whole
      obtain ⟨text, isHost⟩ := whole
      exact exists_reaches dialect isHost
  · intro dsn built
    constructor
    · intro reaches
      obtain ⟨text, isHost⟩ := isHost_of_reaches built reaches
      exact isHost.not_diverting
    · intro plain
      exact reaches_of_plain built plain

/-- A slash in the host ends it there, and what follows, the port with it, is lost in the path that
the database replaces. Behind a port of the host's own a backslash does the same, so that the name
leads to another port. -/
theorem slash_drops_port :
    build .postgres ⟨"db/x", 5432, "crm", "etl", "p"⟩ =
      .ok "postgres://etl:p@db/crm?sslmode=disable" ∧
    build .mysql ⟨"db:1\\", 3306, "crm", "etl", "p"⟩ = .ok "mysql://etl:p@db:1/crm" ∧
    ¬Reaches .postgres ⟨"db/x", 5432, "crm", "etl", "p"⟩
      "postgres://etl:p@db/crm?sslmode=disable" := by
  refine ⟨rfl, rfl, ?_⟩
  intro reaches
  obtain ⟨host, -, found⟩ := reaches.server
  have colon : ':' ∈ serverIn
      (Login.afterScheme "postgres://etl:p@db/crm?sslmode=disable".toList) := by
    rw [found]
    simp
  revert colon
  decide

end Geoflow.Dsn
