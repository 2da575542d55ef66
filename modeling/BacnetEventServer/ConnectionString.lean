import BacnetEventServer.KurrentDb
import BacnetEventServer.Logging

namespace BacnetEventServer

/-- `strchr(s, c)` as a split of `s` at its first `c`: the bytes before it and after it. -/
def strchrSplit (c : UInt8) : CStr → Option (CStr × CStr)
  | [] => none
  | b :: rest =>
    if b = c then some ([], rest) else (strchrSplit c rest).map fun p => (b :: p.1, p.2)

/-- `strstr(haystack, needle) != NULL`. -/
def strstrFound (needle : CStr) : CStr → Bool
  | [] => needle.isEmpty
  | b :: rest => needle.isPrefixOf (b :: rest) || strstrFound needle rest

/-- The fields of `struct kurrentdb_client` that `parse_connection_string` writes. The client
comes zeroed from `calloc`, so a field it leaves alone is empty. -/
structure ClientConnection where
  connectionString : CStr
  baseUrl : CStr
  useTls : Bool
  username : CStr
  password : CStr
  deriving DecidableEq, Repr

/-- The user and password written from the credentials: both when they hold a `:`, neither
otherwise. -/
def credentialFields (credentials : CStr) : CStr × CStr :=
  match strchrSplit 58 credentials with
  | some (user, pass) => (strncpy 63 user, strncpy 63 pass)
  | none => ([], [])

/-- The credentials step on the text after `esdb://`: the user and password it writes and
the text the host starts at. The credentials are cut to the 127 bytes of their buffer. -/
def splitCredentials (ptr : CStr) : (CStr × CStr) × CStr :=
  match strchrSplit 64 ptr with
  | some (credentials, rest) => (credentialFields (credentials.take 127), rest)
  | none => (([], []), ptr)

/-- The host step: `host_port` in its 128 bytes, and the query from its `?` on. Without a
query, `strncpy` copies at most 127 bytes into the uninitialised buffer and writes no
terminator when the text has 127 bytes or more: `none`. -/
def splitHostPort (ptr : CStr) : Option (CStr × Option CStr) :=
  match strchrSplit 63 ptr with
  | some (hostPort, query) => some (hostPort.take 127, some (63 :: query))
  | none => if ptr.length < 127 then some (strncpy 127 ptr, none) else none

/-- The query holds `tls=true` or `Tls=true`. -/
def queryUseTls (query : CStr) : Bool :=
  strstrFound (lit "tls=true") query || strstrFound (lit "Tls=true") query

/-- `"%s://%s"` with `https` or `http` and the host, into the 256 bytes of `base_url`. -/
def baseUrlText (useTls : Bool) (hostPort : CStr) : CStr :=
  snprintfText 256 ((if useTls then lit "https" else lit "http") ++ lit "://" ++ hostPort)

/-- What `parse_connection_string` leaves, or what follows from it: `false` for a string
without `esdb://`, the fields it wrote, or a `host_port` without its terminator, which the
`snprintf` of the base URL reads past (undefined behaviour). -/
inductive ConnectionParse (α : Type)
  | failed
  | parsed (a : α)
  | unterminatedHostPort
  deriving DecidableEq, Repr

def ConnectionParse.map {α β : Type} (f : α → β) : ConnectionParse α → ConnectionParse β
  | failed => failed
  | parsed a => parsed (f a)
  | unterminatedHostPort => unterminatedHostPort

/-- `parse_connection_string`. -/
def parseConnectionString (connStr : CStr) : ConnectionParse ClientConnection :=
  if (lit "esdb://").isPrefixOf connStr then
    let creds := splitCredentials (connStr.drop 7)
    match splitHostPort creds.2 with
    | none => .unterminatedHostPort
    | some host =>
      let useTls := (host.2.map queryUseTls).getD false
      .parsed { connectionString := strncpy 511 connStr, baseUrl := baseUrlText useTls host.1,
                useTls, username := creds.1.1, password := creds.1.2 }
  else .failed

/-- The client `kurrentdb_client_create` returns: the parsed connection and an empty
subscription table of capacity 8, running and not connected. Allocation and
`curl_easy_init` are taken to succeed. -/
structure KurrentdbClient where
  connection : ClientConnection
  subscriptions : List InternalSubscription
  subscriptionCapacity : Nat
  running : Bool
  connected : Bool

/-- `kurrentdb_client_create`: no client unless the connection string parses. -/
def kurrentdbClientCreate (connectionString : CStr) : ConnectionParse KurrentdbClient :=
  (parseConnectionString connectionString).map fun c =>
    { connection := c, subscriptions := [], subscriptionCapacity := 8, running := true,
      connected := false }

section Scans

variable {c : UInt8} {a b s : CStr}

theorem strchrSplit_append (hc : c ∉ a) (b : CStr) : strchrSplit c (a ++ c :: b) = some (a, b) := by
  induction a with
  | nil => simp [strchrSplit]
  | cons x a ih =>
    have hx : x ≠ c := fun h => hc (h ▸ List.mem_cons_self x a)
    simp [strchrSplit, hx, ih (fun h => hc (List.mem_cons_of_mem x h))]

theorem strchrSplit_of_not_mem (hc : c ∉ s) : strchrSplit c s = none := by
  induction s with
  | nil => rfl
  | cons x s ih =>
    have hx : x ≠ c := fun h => hc (h ▸ List.mem_cons_self x s)
    simp [strchrSplit, hx, ih (fun h => hc (List.mem_cons_of_mem x h))]

theorem splitCredentials_of_not_mem (h : 64 ∉ s) : splitCredentials s = (([], []), s) := by
  simp only [splitCredentials, strchrSplit_of_not_mem h]

theorem credentialFields_of_not_mem (h : 58 ∉ s) : credentialFields s = ([], []) := by
  simp only [credentialFields, strchrSplit_of_not_mem h]

theorem splitCredentials_append (ha : 64 ∉ a) (b : CStr) :
    splitCredentials (a ++ 64 :: b) = (credentialFields (a.take 127), b) := by
  simp only [splitCredentials, strchrSplit_append ha]

end Scans

theorem esdb_prefix_append (s : CStr) :
    parseConnectionString (lit "esdb://" ++ s) =
      let creds := splitCredentials s
      match splitHostPort creds.2 with
      | none => .unterminatedHostPort
      | some host =>
        let useTls := (host.2.map queryUseTls).getD false
        .parsed { connectionString := strncpy 511 (lit "esdb://" ++ s),
                  baseUrl := baseUrlText useTls host.1, useTls, username := creds.1.1,
                  password := creds.1.2 } := by
  have hlen : (lit "esdb://").length = 7 := by decide
  simp only [parseConnectionString, List.isPrefixOf_iff_prefix.mpr (List.prefix_append _ s),
    if_true, ← hlen, List.drop_left]

/-- A connection string by its parts: the credentials, the host and port, and the query. -/
structure ConnectionParts where
  credentials : Option (CStr × CStr)
  hostPort : CStr
  query : Option CStr

/-- `esdb://`, then `user:pass@` when there are credentials, the host and port, and `?query`
when there is a query. -/
def ConnectionParts.render (p : ConnectionParts) : CStr :=
  lit "esdb://" ++ (p.credentials.elim [] fun c => c.1 ++ 58 :: c.2 ++ [64]) ++ p.hostPort ++
    p.query.elim [] fun q => 63 :: q

/-- What the query asks for: TLS when it holds `tls=true` or `Tls=true`. -/
def ConnectionParts.useTls (p : ConnectionParts) : Bool :=
  p.query.elim false fun q => queryUseTls (63 :: q)

/-- Parts the parser reads back: no `@` after the scheme but the one closing the credentials,
no `:` in the user, no `?` in the host, every part within its buffer, and room for the
terminator of a host without a query. -/
structure ConnectionParts.Readable (p : ConnectionParts) : Prop where
  user : ∀ c ∈ p.credentials, 58 ∉ c.1 ∧ 64 ∉ c.1 ∧ c.1.length ≤ 63
  pass : ∀ c ∈ p.credentials, 64 ∉ c.2 ∧ c.2.length ≤ 63
  host : 64 ∉ p.hostPort ∧ 63 ∉ p.hostPort ∧ p.hostPort.length ≤ 127
  terminated : p.query = none → p.hostPort.length < 127
  query : ∀ q ∈ p.query, 64 ∉ q

section RoundTrip

theorem splitHostPort_render {hostPort : CStr} (query : Option CStr) (hq : 63 ∉ hostPort)
    (hlen : hostPort.length ≤ 127) (hterm : query = none → hostPort.length < 127) :
    splitHostPort (hostPort ++ query.elim [] fun q => 63 :: q) =
      some (hostPort, query.map (63 :: ·)) := by
  cases query with
  | none =>
    simp [splitHostPort, strchrSplit_of_not_mem hq, strncpy, List.take_of_length_le hlen, hterm rfl]
  | some q => simp [splitHostPort, strchrSplit_append hq, List.take_of_length_le hlen]

theorem splitCredentials_render {hostPort : CStr} {query : Option CStr} (credentials : Option (CStr × CStr))
    (hrest : 64 ∉ hostPort ++ query.elim [] fun q => 63 :: q)
    (huser : ∀ c ∈ credentials, 58 ∉ c.1 ∧ 64 ∉ c.1 ∧ c.1.length ≤ 63)
    (hpass : ∀ c ∈ credentials, 64 ∉ c.2 ∧ c.2.length ≤ 63) :
    splitCredentials ((credentials.elim [] fun c => c.1 ++ 58 :: c.2 ++ [64]) ++
        (hostPort ++ query.elim [] fun q => 63 :: q)) =
      (((credentials.map (·.1)).getD [], (credentials.map (·.2)).getD []),
        hostPort ++ query.elim [] fun q => 63 :: q) := by
  cases credentials with
  | none => simpa using splitCredentials_of_not_mem hrest
  | some c =>
    obtain ⟨hcolon, hat, hulen⟩ := huser c rfl
    obtain ⟨hpat, hplen⟩ := hpass c rfl
    have hcred : 64 ∉ c.1 ++ 58 :: c.2 := by simp [hat, hpat]
    have hfits : (c.1 ++ 58 :: c.2).length ≤ 127 := by simp; omega
    have hsplit := splitCredentials_append hcred (hostPort ++ query.elim [] fun q => 63 :: q)
    simp only [List.append_assoc, List.cons_append, List.take_of_length_le hfits] at hsplit
    simp only [Option.elim_some, List.append_assoc, List.cons_append, List.nil_append, hsplit]
    simp [credentialFields, strchrSplit_append hcolon, strncpy, List.take_of_length_le hulen,
      List.take_of_length_le hplen]

/-- A rendered connection string is read back part by part: the user and password, the host
and port in the base URL, and the TLS flag the query asks for. -/
theorem parseConnectionString_render {p : ConnectionParts} (h : p.Readable) :
    parseConnectionString p.render =
      .parsed { connectionString := strncpy 511 p.render,
                baseUrl := (if p.useTls then lit "https" else lit "http") ++ lit "://" ++ p.hostPort,
                useTls := p.useTls, username := (p.credentials.map (·.1)).getD [],
                password := (p.credentials.map (·.2)).getD [] } := by
  obtain ⟨credentials, hostPort, query⟩ := p
  obtain ⟨huser, hpass, ⟨hat, hq, hlen⟩, hterm, hquery⟩ := h
  dsimp only at huser hpass hat hq hlen hterm hquery
  have hrest : 64 ∉ hostPort ++ query.elim [] fun q => 63 :: q := by
    cases query with
    | none => simpa using hat
    | some q => simpa [hat] using hquery q rfl
  have htls : ((query.map (63 :: ·)).map queryUseTls).getD false =
      (ConnectionParts.mk credentials hostPort query).useTls := by
    cases query <;> rfl
  have hurl : ((if (ConnectionParts.mk credentials hostPort query).useTls then lit "https"
      else lit "http") ++ (lit "://" ++ hostPort)).length ≤ 256 - 1 := by
    split <;> simp [show (lit "https").length = 5 by decide, show (lit "http").length = 4 by decide,
      show (lit "://").length = 3 by decide] <;> omega
  rw [ConnectionParts.render, List.append_assoc, List.append_assoc, esdb_prefix_append,
    splitCredentials_render credentials hrest huser hpass]
  simp only [splitHostPort_render query hq hlen hterm, htls, baseUrlText, snprintfText,
    List.append_assoc, List.take_of_length_le hurl]

theorem admin_connection_read_back :
    let p : ConnectionParts :=
      ⟨some (lit "admin", lit "changeit"), lit "localhost:2113", some (lit "tls=true")⟩
    p.Readable ∧ parseConnectionString p.render =
      .parsed { connectionString := strncpy 511 p.render,
                baseUrl := (if p.useTls then lit "https" else lit "http") ++ lit "://" ++ p.hostPort,
                useTls := p.useTls, username := (p.credentials.map (·.1)).getD [],
                password := (p.credentials.map (·.2)).getD [] } := by
  intro p
  have h : p.Readable :=
    ⟨fun c hc => by cases hc; decide, fun c hc => by cases hc; decide, by decide,
      (fun hq => nomatch hq), fun q hq => by cases hq; decide⟩
  exact ⟨h, parseConnectionString_render h⟩

end RoundTrip

/-- An `@` in the query closes credentials that began at the host: the base URL and the TLS
flag are those of the string holding only what follows that `@`. -/
theorem parseConnectionString_at_in_query {hostPort query rest : CStr} (hh : 64 ∉ hostPort)
    (hq : 64 ∉ query) (hr : 64 ∉ rest) :
    (parseConnectionString (lit "esdb://" ++ hostPort ++ 63 :: query ++ 64 :: rest)).map
        (fun c => (c.baseUrl, c.useTls)) =
      (parseConnectionString (lit "esdb://" ++ rest)).map (fun c => (c.baseUrl, c.useTls)) := by
  have hcred : 64 ∉ hostPort ++ 63 :: query := by simp [hh, hq]
  have hsplit := splitCredentials_append hcred rest
  simp only [List.append_assoc, List.cons_append] at hsplit
  simp only [List.append_assoc, List.cons_append, esdb_prefix_append, hsplit,
    splitCredentials_of_not_mem hr]
  split <;> rfl

theorem at_in_query_redirects :
    64 ∉ lit "localhost:2113" ∧ 64 ∉ lit "tls=true&owner=ops" ∧ 64 ∉ lit "backup:2113" ∧
      (parseConnectionString (lit "esdb://" ++ lit "localhost:2113" ++ 63 :: lit "tls=true&owner=ops" ++
          64 :: lit "backup:2113")).map (fun c => (c.baseUrl, c.useTls)) =
        (parseConnectionString (lit "esdb://" ++ lit "backup:2113")).map
          (fun c => (c.baseUrl, c.useTls)) :=
  ⟨by decide, by decide, by decide,
    parseConnectionString_at_in_query (by decide) (by decide) (by decide)⟩

/-- Credentials with no `:` in their first 127 bytes are dropped: the client is the one of the
string without them, with no user and no password, apart from the copy of the string. -/
theorem parseConnectionString_credentials_without_colon {credentials rest : CStr}
    (ha : 64 ∉ credentials) (hc : 58 ∉ credentials.take 127) (hr : 64 ∉ rest) :
    parseConnectionString (lit "esdb://" ++ credentials ++ 64 :: rest) =
      (parseConnectionString (lit "esdb://" ++ rest)).map fun c =>
        { c with connectionString := strncpy 511 (lit "esdb://" ++ credentials ++ 64 :: rest) } := by
  rw [List.append_assoc, esdb_prefix_append, esdb_prefix_append, splitCredentials_append ha,
    credentialFields_of_not_mem hc, splitCredentials_of_not_mem hr]
  dsimp only
  cases splitHostPort rest <;> rfl

theorem user_without_password_dropped :
    64 ∉ lit "admin" ∧ 58 ∉ (lit "admin").take 127 ∧ 64 ∉ lit "localhost:2113" ∧
      parseConnectionString (lit "esdb://" ++ lit "admin" ++ 64 :: lit "localhost:2113") =
        (parseConnectionString (lit "esdb://" ++ lit "localhost:2113")).map fun c =>
          { c with connectionString :=
              strncpy 511 (lit "esdb://" ++ lit "admin" ++ 64 :: lit "localhost:2113") } :=
  ⟨by decide, by decide, by decide,
    parseConnectionString_credentials_without_colon (by decide) (by decide) (by decide)⟩

end BacnetEventServer
