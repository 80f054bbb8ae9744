import PicowDayClock.CaptiveDns
import PicowDayClock.DhcpExchange
import PicowDayClock.DhcpReplies
import PicowDayClock.Library.DottedQuad
import PicowDayClock.ResponseEnd
import PicowDayClock.TemplateExpansion

/-! The three servers of the access point together. A client that takes its name
server from a reply of the first, asks it for any host and sends its request there
comes to the configuration page, by one redirection at most. -/
namespace PicowDayClock.CaptivePortal
open BigEndian (Ip4Addr)
open CaptiveDns Checked ConfigForm Dhcp DhcpLeases DhcpOptions DhcpReplies DhcpUniqueness
  DnsServer HtmlTemplate RequestText ResponseEnd Wifi

/-! ## The servers -/

theorem printed_free (ip : Ip4Addr) : NulFree (DottedQuad.text ip) := by
  intro member
  rcases DottedQuad.text_plain ip 0 member with decimal | point
  · cases decimal
  · cases point

/-- `ipaddr_ntoa` of the address. -/
def gatewayOf (ip : Ip4Addr) : Gateway :=
  ⟨DottedQuad.text ip, printed_free ip, DottedQuad.text_length_le ip⟩

/-- The servers of one session. The name server has no state but the address. -/
structure Servers where
  dhcp : DhcpServer
  session : Session

/-- `start_wifi_access_point` up to its waiting loop, with the servers it opens. All of
them have the address of the access point, and the page is the text that was put into
`html_form_expanded`. -/
def openServers (htmlFormTemplate : Bytes) (htmlFormExpanded : Memory)
    (flashConfig : Option FlashConfig) (storeConfig : FlashConfig → Bool) (gw mask : Ip4Addr)
    (wifiInitialized : Bool) (archInit : Int) (opened : Bool) :
    Checked (Except WifiError Servers) := do
  let started ← startWifiAccessPoint htmlFormTemplate htmlFormExpanded flashConfig wifiInitialized
    archInit opened
  match started with
  | .error err => .ok (.error err)
  | .ok page => do
    let text ← page.string
    .ok (.ok
      { dhcp := dhcpServerInit gw mask
        session := {
          htmlFormExpanded := text
          gw := gatewayOf gw
          flashConfig := flashConfig
          storeConfig := storeConfig } })

/-- The address that the servers print is the one that they have, and the length of
the page is one that `tcp_write` takes. -/
structure Servers.Agree (servers : Servers) : Prop where
  printed : servers.session.gw = gatewayOf servers.dhcp.ip
  fits : servers.session.htmlFormExpanded.length < 2 ^ 16

theorem openServers_agree {htmlFormTemplate : Bytes} {htmlFormExpanded : Memory}
    {servers : Servers}
    (size : htmlFormExpanded.length = htmlFormMaxLength htmlFormTemplate.length)
    (small : htmlFormMaxLength htmlFormTemplate.length ≤ 2 ^ 16)
    (opens : openServers htmlFormTemplate htmlFormExpanded flashConfig storeConfig gw mask
      wifiInitialized archInit opened = .ok (.ok servers)) : servers.Agree := by
  obtain ⟨started, starts, rest⟩ := bind_eq_ok_iff.mp opens
  cases started with
  | error err => cases rest
  | ok page =>
    obtain ⟨text, read, same⟩ := bind_eq_ok_iff.mp rest
    cases same
    refine ⟨rfl, ?_⟩
    have length : page.length = htmlFormExpanded.length := by
      unfold startWifiAccessPoint at starts
      split at starts
      · cases starts
      · obtain ⟨expanded, expands, rest⟩ := bind_eq_ok_iff.mp starts
        cases expanded with
        | error err => cases rest
        | ok memory =>
          cases opened with
          | false => cases rest
          | true =>
            cases rest
            exact TemplateExpansion.expandInto_length expands
    have inside := Memory.string_length_lt read
    dsimp only
    omega

/-! ## A client -/

structure Url where
  host : Bytes
  path : Bytes
  deriving DecidableEq

/-- What is up to a client: the identification of its questions, what it sends
behind the first line of a request, and the pieces in which it acknowledges a
response. -/
structure Client where
  id : Nat
  headers : Url → Bytes
  pieces : Bytes → List Nat
  whole : ∀ response, (pieces response).sum = response.length

/-- The first name server that a reply of the address server names. -/
def nameServerOf (reply : Bytes) : Option Bytes :=
  match optionOf reply dhcpOptDns with
  | .ok (some addresses) => some (addresses.take 4)
  | _ => none

/-- The question for the address of a host, and the datagram it is sent in. -/
def questionFor (host : Bytes) : Bytes :=
  nameBytes (host.splitOn DottedQuad.dot) ++ [0, 1, 0, 1]

def queryFor (id : Nat) (host : Bytes) : Bytes :=
  BigEndian.write 2 id ++ [1, 0, 0, 1, 0, 0, 0, 0, 0, 0] ++ questionFor host

/-- The address in the record behind the question, if it is one of the Internet. -/
def addressIn (question reply : Bytes) : Option Bytes :=
  let record := reply.drop (dnsHeaderSize + question.length)
  if (record.drop 2).take 4 = [0, 1, 0, 1] ∧ (record.drop 10).take 2 = [0, 4] then
    some ((record.drop 12).take 4)
  else none

def requestLine (path : Bytes) : Bytes := ascii "GET " ++ path ++ ascii " HTTP/1.1" ++ crlf

def slash : Byte := 0x2F

/-- Where a response redirects to. -/
def redirectStart : Bytes := ascii "HTTP/1.1 302 Found" ++ crlf ++ ascii "Location: http://"

def redirectOf (response : Bytes) : Option Url :=
  if startsWith response redirectStart then
    let location := (response.drop redirectStart.length).takeWhile (· ≠ 0x0D)
    some { host := location.takeWhile (· ≠ slash), path := location.dropWhile (· ≠ slash) }
  else none

section client

variable (servers : Servers) (client : Client) (nameServer : Bytes)

/-- A host is an address itself, or its address is asked for. -/
def resolve (host : Bytes) : Option Bytes :=
  match DottedQuad.address host with
  | some address => some address
  | none =>
    if nameServer = servers.dhcp.ip.bytes then
      match dnsServerProcess servers.dhcp.ip (queryFor client.id host) with
      | .ok (some reply) => addressIn (questionFor host) reply
      | _ => none
    else none

/-- A request in one segment over a connection of its own: the response, if the
server ends it by closing once all of it has been acknowledged. -/
def fetch (url : Url) (address : Bytes) : Option Bytes :=
  if address = servers.dhcp.ip.bytes then
    let served := tcpServerRecv servers.session (.fresh 0)
      (some (requestLine url.path ++ client.headers url)) .ok
    let ended := acknowledge served.con .ok (client.pieces served.written)
    if ended.closedWith = some .ok then some served.written else none
  else none

/-- The client follows redirections, and makes so many requests at most. -/
def browse : Nat → Url → Option Bytes
  | 0, _ => none
  | requests + 1, url => do
    let address ← resolve servers client nameServer url.host
    let response ← fetch servers client url address
    match redirectOf response with
    | some next => browse requests next
    | none => some response

end client

/-! ## The name -/

/-- A host that a question can be asked about. -/
def ValidName (host : Bytes) : Prop :=
  ValidLabels (host.splitOn DottedQuad.dot) ∧
    (nameBytes (host.splitOn DottedQuad.dot)).length ≤ 255

theorem questionFor_length (host : Bytes) :
    (questionFor host).length = (nameBytes (host.splitOn DottedQuad.dot)).length + 4 :=
  List.length_append

theorem queryFor_drop (id : Nat) (host : Bytes) :
    (queryFor id host).drop dnsHeaderSize = questionFor host := rfl

theorem queryFor_length (id : Nat) (host : Bytes) :
    (queryFor id host).length = dnsHeaderSize + (questionFor host).length := by
  simp only [queryFor, List.length_append]
  rfl

theorem queryFor_received {host : Bytes} (valid : ValidName host) (id : Nat) :
    (queryFor id host).take maxDnsMsgSize = queryFor id host := by
  have short := valid.2
  have question := questionFor_length host
  have header : dnsHeaderSize = 12 := rfl
  have size : maxDnsMsgSize = 300 := rfl
  apply List.take_of_length_le
  rw [queryFor_length]
  omega

theorem queryFor_asks {host : Bytes} (valid : ValidName host) (id : Nat) :
    Asks (queryFor id host) (host.splitOn DottedQuad.dot) [0, 1, 0, 1] := by
  have header : dnsHeaderSize = 12 := rfl
  have size : maxDnsMsgSize = 300 := rfl
  have short := valid.2
  have length := queryFor_length id host
  have question := questionFor_length host
  have flags : ((queryFor id host).drop 2).take 2 = [1, 0] := rfl
  have count : ((queryFor id host).drop 4).take 2 = [0, 1] := rfl
  constructor
  · omega
  · rw [flags]
    decide
  · rw [flags]
    decide
  · rw [count]
    decide
  · exact valid.1
  · rw [queryFor_drop]
    exact List.prefix_refl _
  · exact short
  · rfl
  · rw [questionFor] at question
    omega

theorem addressIn_replyTo (ip : Ip4Addr) {received : Bytes} (header : 2 ≤ received.length)
    (question : Bytes) : addressIn question (replyTo ip received question) = some ip.bytes := by
  have front : (received.take 2 ++ [0x84, 0x80, 0, 1, 0, 1, 0, 0, 0, 0] ++ question).length =
      dnsHeaderSize + question.length := by
    rw [List.length_append, List.length_append, List.length_take_of_le header]
    rfl
  have record : (replyTo ip received question).drop (dnsHeaderSize + question.length) =
      [0xC0, 12, 0, 1, 0, 1, 0, 0, 0, 60, 0, 4] ++ ip.bytes := by
    rw [replyTo, List.append_assoc, List.drop_left' front]
  have four : ip.bytes.take 4 = ip.bytes := List.take_of_length_le (Nat.le_of_eq ip.four)
  rw [addressIn, record]
  exact (if_pos ⟨rfl, rfl⟩).trans (congrArg some four)

/-- The name server answers a question about any host with the address of the
access point. -/
theorem resolve_name (servers : Servers) (client : Client) {host : Bytes}
    (named : DottedQuad.address host = none) (valid : ValidName host) :
    resolve servers client servers.dhcp.ip.bytes host = some servers.dhcp.ip.bytes := by
  obtain ⟨answer, ran, answers⟩ :=
    dnsServerProcess_answers servers.dhcp.ip (queryFor client.id host)
  rw [queryFor_received valid] at answers
  have asks := queryFor_asks valid client.id
  have replied := (answers _).mpr ((asks_iff_accepted servers.dhcp.ip _ _).mp
    ⟨_, _, asks, rfl, replyTo_length _ (Nat.le_trans (by decide) asks.header) _⟩)
  rw [resolve, named]
  dsimp only
  rw [if_pos rfl, ran, replied]
  exact addressIn_replyTo servers.dhcp.ip (Nat.le_trans (by decide) asks.header) _

/-- An address is not asked for. -/
theorem resolve_address (servers : Servers) (client : Client) (nameServer : Bytes)
    {host address : Bytes} (spelled : DottedQuad.address host = some address) :
    resolve servers client nameServer host = some address := by
  rw [resolve, spelled]

/-! ## The page -/

/-- The first line of a request for the path fits into the buffer. -/
def ValidPath (path : Bytes) : Prop :=
  NulFree path ∧ (requestLine path).length < tcpIpBufferSize

/-- What the buffer holds after a request: its first line, and as much of the rest
as is kept. -/
theorem requestLine_kept {path : Bytes} (valid : ValidPath path) (more : Bytes) :
    ∃ rest, appended [] (requestLine path ++ more) = requestLine path ++ rest := by
  have free : NulFree (requestLine path) := by
    have before : NulFree (ascii "GET ") := by decide
    have after : NulFree (ascii " HTTP/1.1") := by decide
    have line : NulFree crlf := by decide
    exact ((before.append valid.1).append after).append line
  have short := valid.2
  have size : tcpIpBufferSize = 8192 := rfl
  have whole : (requestLine path).take (tcpIpBufferSize - 1 - ([] : Bytes).length) = requestLine path :=
    List.take_of_length_le (by rw [List.length_nil]; omega)
  rw [appended, List.nil_append, List.take_append, whole, cstr_append_of_nulFree free]
  exact ⟨_, rfl⟩

theorem requestLine_get (path rest : Bytes) : ¬ isPost (requestLine path ++ rest) = true := by
  have other : isPost (requestLine path ++ rest) = false := rfl
  rw [other]
  decide

theorem requestLine_complete (path rest : Bytes) :
    progress (requestLine path ++ rest) = .complete := by
  have ended : crlf <:+: requestLine path ++ rest :=
    ⟨ascii "GET " ++ path ++ ascii " HTTP/1.1", rest, rfl⟩
  have line : (strstr (requestLine path ++ rest) crlf).isNone = false := by
    rw [Option.isNone_eq_false_iff]
    exact Option.isSome_iff_ne_none.mpr (strstr_found ended)
  rw [progress, if_neg (requestLine_get path rest), line]
  rfl

/-- A request is answered with the page or the redirection, and the answer ends. -/
theorem fetch_answers {servers : Servers} (agree : servers.Agree) (client : Client) (url : Url)
    (valid : ValidPath url.path) :
    ∃ rest, fetch servers client url servers.dhcp.ip.bytes =
      some (if asksForPage (requestLine url.path ++ rest) then pageReply servers.session
        else httpResponseRedirectHeader servers.session.gw) := by
  obtain ⟨rest, kept⟩ := requestLine_kept valid (client.headers url)
  have announced := recv_fresh_announces servers.session agree.fits 0 .ok
    (by rw [kept]; exact requestLine_get url.path rest)
    (by rw [kept]; exact requestLine_complete url.path rest)
  rw [kept] at announced
  refine ⟨rest, ?_⟩
  rw [fetch, if_pos rfl]
  dsimp only at announced ⊢
  generalize tcpServerRecv servers.session (.fresh 0)
    (some (requestLine url.path ++ client.headers url)) .ok = served at announced ⊢
  obtain ⟨written, announced⟩ := announced
  have some_ : 0 < served.written.length := by
    rw [written]
    exact response_not_empty servers.session _
  have ended := announced.closes some_ .ok (client.pieces served.written)
  rw [client.whole, if_pos (Nat.le_refl _)] at ended
  exact (if_pos ended).trans (congrArg some written)

/-- The page is no redirection. -/
theorem redirectOf_page (session : Session) : redirectOf (pageReply session) = none := rfl

/-- The redirection leads to the page, at the address as it is printed. -/
theorem redirectOf_redirect (ip : Ip4Addr) :
    redirectOf (httpResponseRedirectHeader (gatewayOf ip)) =
      some { host := DottedQuad.text ip, path := httpConfigUrl } := by
  have plain : ∀ sign ∈ DottedQuad.text ip, sign ≠ 0x0D ∧ sign ≠ slash := by
    intro sign member
    rcases DottedQuad.text_plain ip sign member with decimal | rfl
    · constructor
      · rintro rfl
        cases decimal
      · rintro rfl
        cases decimal
    · decide
  have header : httpResponseRedirectHeader (gatewayOf ip) =
      redirectStart ++ (DottedQuad.text ip ++ (httpConfigUrl ++
        0x0D :: (0x0A :: (ascii "Connection: close" ++ crlf ++ crlf)))) := by
    simp only [httpResponseRedirectHeader, redirectStart, List.append_assoc]
    rfl
  have starts : startsWith (httpResponseRedirectHeader (gatewayOf ip)) redirectStart = true := by
    rw [header, startsWith, List.isPrefixOf_iff_prefix]
    exact List.prefix_append _ _
  have line : 0x0D ∉ httpConfigUrl := by decide
  have path : ∀ sign ∈ httpConfigUrl, sign ≠ 0x0D := fun sign member same => line (same ▸ member)
  have location : ((httpResponseRedirectHeader (gatewayOf ip)).drop
      redirectStart.length).takeWhile (· ≠ 0x0D) = DottedQuad.text ip ++ httpConfigUrl := by
    rw [header, List.drop_left, List.takeWhile_append_of_pos
      (fun sign member => decide_eq_true (plain sign member).1),
      List.takeWhile_append_of_pos (fun sign member => decide_eq_true (path sign member))]
    rfl
  have host : (DottedQuad.text ip ++ httpConfigUrl).takeWhile (· ≠ slash) = DottedQuad.text ip := by
    rw [List.takeWhile_append_of_pos (fun sign member => decide_eq_true (plain sign member).2)]
    exact List.append_nil _
  have behind : (DottedQuad.text ip ++ httpConfigUrl).dropWhile (· ≠ slash) =
      httpConfigUrl := by
    rw [List.dropWhile_append_of_pos (fun sign member => decide_eq_true (plain sign member).2)]
    rfl
  rw [redirectOf, if_pos starts]
  dsimp only
  rw [location, host, behind]

/-- The page under its own address. -/
theorem fetch_config_url {servers : Servers} (agree : servers.Agree) (client : Client)
    (host : Bytes) :
    fetch servers client { host := host, path := httpConfigUrl } servers.dhcp.ip.bytes =
      some (pageReply servers.session) := by
  have valid : ValidPath httpConfigUrl := ⟨by decide, by decide⟩
  obtain ⟨rest, answered⟩ := fetch_answers agree client ⟨host, httpConfigUrl⟩ valid
  have asked : asksForPage (requestLine httpConfigUrl ++ rest) = true := rfl
  rw [answered, asked]
  rfl

/-! ## The whole way -/

/-- A host whose name can be asked for, or the access point itself by its address. -/
def Reachable (servers : Servers) (host : Bytes) : Prop :=
  DottedQuad.address host = some servers.dhcp.ip.bytes ∨
    DottedQuad.address host = none ∧ ValidName host

/-- With the name server of the access point, at any such host and under any path, a
client ends at the page, and is redirected at most once. -/
theorem browse_ends_at_page {servers : Servers} (agree : servers.Agree) (client : Client)
    {url : Url} (reachable : Reachable servers url.host) (valid : ValidPath url.path) :
    browse servers client servers.dhcp.ip.bytes 2 url = some (pageReply servers.session) := by
  have resolved : resolve servers client servers.dhcp.ip.bytes url.host =
      some servers.dhcp.ip.bytes := by
    rcases reachable with spelled | ⟨named, asked⟩
    · exact resolve_address servers client _ spelled
    · exact resolve_name servers client named asked
  obtain ⟨rest, answered⟩ := fetch_answers agree client url valid
  rw [browse, resolved, Option.bind_eq_bind, Option.bind_some, answered, Option.bind_some]
  by_cases page : asksForPage (requestLine url.path ++ rest) = true
  · rw [if_pos page, redirectOf_page]
  · -- the host of the redirection is the address as it is printed
    have spelled := DottedQuad.address_text servers.dhcp.ip
    rw [if_neg page, agree.printed, redirectOf_redirect]
    dsimp only
    rw [browse, resolve_address servers client _ spelled, Option.bind_eq_bind, Option.bind_some,
      fetch_config_url agree, Option.bind_some, redirectOf_page]

/-- A reply of the address server names the access point as name server. -/
theorem nameServerOf_reply (d : DhcpServer) (ticks : Nat) (p : Bytes) :
    ∃ next answer, dhcpServerProcess d ticks p = .ok (next, answer) ∧
      ∀ reply ∈ answer, nameServerOf reply = some d.ip.bytes := by
  obtain ⟨next, answer, ran, ip, -, replies⟩ := dhcpServerProcess_replies d ticks p
  refine ⟨next, answer, ran, fun reply answered => ?_⟩
  obtain ⟨long, slot, msgType, -, rfl⟩ := replies reply answered
  have four := List.take_of_length_le (Nat.le_of_eq d.ip.four)
  rw [nameServerOf, replyBytes_options next d long]
  refine (congrArg some ?_).trans (congrArg some four)
  rw [ip]

/-- Messages do not change its address. -/
theorem run_ip {d reached : DhcpServer} {messages : List (Nat × Bytes)}
    (ran : server.run d messages = some reached) : reached.ip = d.ip := by
  refine @StepSystem.run_invariant _ _ server _ _ _
    (fun reached => reached.ip = d.ip) ?_ rfl ran
  intro now message next same stepped
  obtain ⟨settled, answer, processed, ip, -⟩ :=
    dhcpServerProcess_replies now (message.1 % 2 ^ 32) message.2
  rw [server_step processed] at stepped
  cases stepped
  exact ip.trans same

/-- When the access point has been started with a page whose length is one that
`tcp_write` takes, then after any messages at the address server, whatever a client
that gets a reply of it asks for: with the name server of that reply, at any host and
under any path, it ends at the page, and is redirected at most once. -/
theorem every_url_leads_to_the_page {htmlFormTemplate : Bytes} {htmlFormExpanded : Memory}
    {servers : Servers}
    (size : htmlFormExpanded.length = htmlFormMaxLength htmlFormTemplate.length)
    (small : htmlFormMaxLength htmlFormTemplate.length ≤ 2 ^ 16)
    (opens : openServers htmlFormTemplate htmlFormExpanded flashConfig storeConfig gw mask
      wifiInitialized archInit opened = .ok (.ok servers))
    (messages : List (Nat × Bytes)) (timeMs : Nat) (p : Bytes) :
    ∃ dhcp next answer, server.run servers.dhcp messages = some dhcp ∧
      dhcpServerProcess dhcp (timeMs % 2 ^ 32) p = .ok (next, answer) ∧
      ∀ reply ∈ answer, ∃ nameServer, nameServerOf reply = some nameServer ∧
        ∀ (client : Client) (url : Url), Reachable servers url.host → ValidPath url.path →
          browse servers client nameServer 2 url = some (pageReply servers.session) := by
  have agree := openServers_agree size small opens
  obtain ⟨dhcp, served⟩ := @StepSystem.run_total _ _ server servers.dhcp messages
    server_takes
  obtain ⟨next, answer, ran, named⟩ := nameServerOf_reply dhcp (timeMs % 2 ^ 32) p
  refine ⟨dhcp, next, answer, served, ran, fun reply answered => ⟨_, named reply answered, ?_⟩⟩
  rw [run_ip served]
  exact fun client url reachable valid => browse_ends_at_page agree client reachable valid

/-- A client that acknowledges a response in two pieces. -/
def twoPieces : Client where
  id := 0x1234
  headers url := ascii "Host: " ++ url.host ++ crlf ++ crlf
  pieces response := [response.length / 2, response.length - response.length / 2]
  whole response := by
    simp only [List.sum_cons, List.sum_nil]
    omega

/-- What a computer asks for to find out whether it is behind a portal. -/
def connectivityCheck : Url where
  host := ascii "connectivity.test"
  path := ascii "/generate_204"

/-- A template that is filled with the name of the network. -/
def nameTemplate : Template TemplateExpansion.pageMarks :=
  TemplateExpansion.single (ascii "SSID") (by decide)

theorem nameTemplate_opens :
    ∃ servers, openServers nameTemplate.text
        (.receive (htmlFormMaxLength nameTemplate.text.length) [])
        (some (TemplateExpansion.network (ascii "home"))) (fun _ => true) freshServer.ip
        freshServer.nm true 0 true = .ok (.ok servers) ∧
      servers.dhcp = dhcpServerInit freshServer.ip freshServer.nm ∧
      servers.session.htmlFormExpanded = ascii "home" := by
  have once : ∀ field, TemplateExpansion.uses nameTemplate.placeholders field ≤ 1 :=
    fun field => List.countP_le_length
  have terminated : NulFree nameTemplate.text := by decide +kernel
  obtain ⟨page, -, held, starts⟩ := TemplateExpansion.page_always_fits
    TemplateExpansion.home_ends terminated once (Memory.receive_length _ [])
  have read : page.string = .ok (ascii "home") := held
  refine ⟨⟨dhcpServerInit freshServer.ip freshServer.nm, ascii "home", gatewayOf freshServer.ip,
    some (TemplateExpansion.network (ascii "home")), fun _ => true⟩, ?_, rfl, rfl⟩
  rw [openServers, starts, ok_bind]
  simp only [not_true_eq_false, false_and, or_self, if_false, read, ok_bind]

theorem connectivity_check_leads_to_the_page :
    ∃ servers next reply nameServer,
      openServers nameTemplate.text (.receive (htmlFormMaxLength nameTemplate.text.length) [])
          (some (TemplateExpansion.network (ascii "home"))) (fun _ => true) freshServer.ip
          freshServer.nm true 0 true = .ok (.ok servers) ∧
        dhcpServerProcess servers.dhcp 1000 (DhcpExchange.discoverOf 7) = .ok (next, some reply) ∧
        nameServerOf reply = some nameServer ∧
        browse servers twoPieces nameServer 2 connectivityCheck =
          some (httpResponseOkHeader ++ ascii "home") := by
  obtain ⟨servers, opens, fresh, page⟩ := nameTemplate_opens
  obtain ⟨dhcp, next, answer, untouched, ran, replies⟩ :=
    every_url_leads_to_the_page (Memory.receive_length _ []) (by decide) opens [] 1000
      (DhcpExchange.discoverOf 7)
  cases untouched
  obtain ⟨_, _, same, discovered⟩ := DhcpExchange.discover_served servers.dhcp (1000 % 2 ^ 32)
    (DhcpExchange.discoverOf_discovers 7)
  rw [ran] at same
  cases same
  cases discovered with
  | full _ taken =>
    rw [fresh] at taken
    exact absurd (.inr rfl) (taken ⟨0, by decide⟩).1
  | @offer slot reply cleared free offers =>
    obtain ⟨nameServer, named, browses⟩ := replies reply rfl
    refine ⟨servers, next, reply, nameServer, opens, ran, named, ?_⟩
    have reachable : Reachable servers connectivityCheck.host :=
      .inr ⟨by decide, by unfold ValidName ValidLabels; decide⟩
    rw [browses twoPieces connectivityCheck reachable ⟨by decide, by decide⟩, pageReply, page]
    rfl

end PicowDayClock.CaptivePortal
