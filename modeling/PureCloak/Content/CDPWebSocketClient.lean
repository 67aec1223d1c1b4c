import PureCloak.Base.CommandLine
import PureCloak.Base.Json
import PureCloak.Library.Segments
import PureCloak.Library.WebSocketFrame

/-!
# The CDP client

`CDPWebSocketClient`: blocking HTTP and WebSocket over a socket to the debugging port of a launched
workspace. What each call of `send` and of `recv` does is the environment's and stands in the `Connection`; the
random bytes are arguments. A string of C++ is the list of its bytes.

`trace` lists the frames that were sent and read on a socket; only the statements read it.
-/

namespace PureCloak.Content
open PureCloak.Base WebSocket

def kMaxHttpResponse : Nat := 262144
def kMaxWsPayload : Nat := 1048576

/-- A call of `SendFrame` or `ReadFrame` on a socket. -/
inductive Exchange where
  | sendFrame (payload : Bytes) (success : Bool)
  /-- With what `recv` had to give before the call, and the payload. -/
  | readFrame (inbound : List Bytes) (payload : Bytes)
deriving DecidableEq

/-- A connection that `TcpConnect` makes: how much each call of `send` will take, and what each call of `recv`
will find; one that finds nothing returns 0 or fails. -/
structure Connection where
  fd : Nat
  sends : List Nat := []
  inbound : List Bytes := []

/-- A socket, with what is left of its connection. -/
structure Socket extends Connection where
  written : Bytes := []
  isOpen : Bool := true
  trace : List Exchange := []

/-! ## Socket utilities -/

/-- `RecvAll`: `recv` is asked for what is still missing. -/
def recvAll (length : Nat) (inbound : List Bytes) : Option Bytes × List Bytes :=
  Segments.readAll length inbound

namespace Socket

/-- `TcpConnect`, where it succeeds. -/
def connect (c : Connection) : Socket :=
  { c with }

/-- `SendAll`. -/
def sendAll (s : Socket) (buffer : Bytes) : Bool × Socket :=
  let r := Segments.writeAll buffer s.sends
  (r.1, { s with written := s.written ++ r.2.1, sends := r.2.2 })

/-- `close`. -/
def close (s : Socket) : Socket :=
  { s with isOpen := false }

end Socket

/-- `std::string::find`. -/
def findBytes (pattern text : Bytes) : Option Nat :=
  text.tails.findIdx? pattern.isPrefixOf

/-- `"\r\n\r\n"`. -/
def headEnd : Bytes := [13, 10, 13, 10]

/-! ## HTTP transport -/

/-- The loop of `HttpGet`: up to 4096 bytes a call, until one gives nothing or there is too much. A call that
gives something adds to the response, so that `kMaxHttpResponse + 2` rounds are enough. -/
def readResponse : Nat → Bytes → List Bytes → Bytes
  | 0, response, _ => response
  | rounds + 1, response, inbound =>
    let (buf, inbound) := Segments.read 4096 inbound
    if buf.isEmpty then response
    else
      let response := response ++ buf
      if response.length > kMaxHttpResponse then response else readResponse rounds response inbound

/-- The request of `HttpGet`. -/
def httpRequest (port : Int) (path : String) : Bytes :=
  utf8 ("GET " ++ path ++ " HTTP/1.1\r\nHost: 127.0.0.1:" ++ numberToString port ++
    "\r\nConnection: close\r\n\r\n")

/-- `HttpGet`; the connection is what `TcpConnect` returns. -/
def httpGet (connection : Option Connection) (port : Int) (path : String) : Bytes :=
  match connection with
  | none => []
  | some c =>
    let (sent, sock) := (Socket.connect c).sendAll (httpRequest port path)
    if !sent then []
    else
      let response := readResponse (kMaxHttpResponse + 2) [] sock.inbound
      match findBytes headEnd response with
      | none => []
      | some n => response.drop (n + 4)

/-! ## WebSocket transport -/

/-- The loop of `WebSocketHandshake`: up to 1024 bytes a call until the end of the head is there. A response
of more than 8192 bytes is refused, so that 8194 rounds are enough. -/
def readHead : Nat → Bytes → List Bytes → Option Bytes × List Bytes
  | 0, _, inbound => (none, inbound)
  | rounds + 1, response, inbound =>
    if (findBytes headEnd response).isSome then (some response, inbound)
    else
      let (buf, inbound) := Segments.read 1024 inbound
      if buf.isEmpty then (none, inbound)
      else
        let response := response ++ buf
        if response.length > 8192 then (none, inbound) else readHead rounds response inbound

/-- The request of `WebSocketHandshake`. -/
def upgradeRequest (port : Int) (path : String) (key : String) : Bytes :=
  utf8 ("GET " ++ path ++ " HTTP/1.1\r\nHost: 127.0.0.1:" ++ numberToString port ++
    "\r\nUpgrade: websocket\r\nConnection: Upgrade\r\nSec-WebSocket-Key: " ++ key ++
    "\r\nSec-WebSocket-Version: 13\r\n\r\n")

/-- The test of `WebSocketHandshake` on the response. -/
def switchesProtocols (response : Bytes) : Bool :=
  (findBytes (utf8 "101") response).isSome && (findBytes (utf8 "Upgrade") response).isSome

/-- `WebSocketHandshake`; the key is what `GenerateWebSocketKey` draws. -/
def Socket.webSocketHandshake (s : Socket) (port : Int) (path key : String) : Bool × Socket :=
  let (sent, s) := s.sendAll (upgradeRequest port path key)
  if !sent then (false, s)
  else
    let (response, inbound) := readHead 8194 [] s.inbound
    ((response.map switchesProtocols).getD false, { s with inbound := inbound })

/-- A `char`, which is signed, as the `int` it becomes in an expression. -/
def intOfChar (c : UInt8) : Int32 :=
  c.toInt8.toInt32

/-- `static_cast<char>` of an `int`. -/
def charOfInt (n : Int32) : UInt8 :=
  n.toInt8.toUInt8

/-- The loops that mask and unmask. -/
def xorMask (mask : Mask) (payload : Bytes) : Bytes :=
  payload.mapIdx fun i c => charOfInt (intOfChar c ^^^ Int32.ofNat (mask.byte i).toNat)

/-- The length field of `SendFrame`. -/
def lengthField (len : Nat) : Bytes :=
  if len ≤ 125 then [charOfInt (0x80 ||| intOfChar (UInt8.ofNat len))]
  else if len ≤ 65535 then
    [charOfInt (0x80 ||| 126), UInt8.ofNat (len >>> 8 &&& 0xFF), UInt8.ofNat (len &&& 0xFF)]
  else
    charOfInt (0x80 ||| 127) :: [7, 6, 5, 4, 3, 2, 1, 0].map fun i => UInt8.ofNat (len >>> (i * 8) &&& 0xFF)

/-- The bytes that `SendFrame` puts together. -/
def frameBytes (mask : Mask) (payload : Bytes) : Bytes :=
  charOfInt 0x81 :: (lengthField payload.length ++ mask.bytes ++ xorMask mask payload)

/-- `SendFrame`. -/
def Socket.sendFrame (s : Socket) (mask : Mask) (payload : Bytes) : Bool × Socket :=
  let (sent, s) := s.sendAll (frameBytes mask payload)
  (sent, { s with trace := s.trace ++ [.sendFrame payload sent] })

/-- The length in `ReadFrame`, from the second byte of the header and the bytes after it. -/
def readLength (header1 : UInt8) (inbound : List Bytes) : Option UInt64 × List Bytes :=
  let payloadLen := (header1 &&& 0x7F).toUInt64
  if payloadLen = 126 then
    match recvAll 2 inbound with
    | (some [ext0, ext1], inbound) => (some (ext0.toUInt64 <<< 8 ||| ext1.toUInt64), inbound)
    | (_, inbound) => (none, inbound)
  else if payloadLen = 127 then
    match recvAll 8 inbound with
    | (some ext, inbound) => (some (ext.foldl (fun n b => n <<< 8 ||| b.toUInt64) 0), inbound)
    | (none, inbound) => (none, inbound)
  else (some payloadLen, inbound)

/-- The masking key in `ReadFrame`. -/
def readMask (masked : Bool) (inbound : List Bytes) : Option Mask × List Bytes :=
  if masked then
    match recvAll 4 inbound with
    | (some [b0, b1, b2, b3], inbound) => (some ⟨b0, b1, b2, b3⟩, inbound)
    | (_, inbound) => (none, inbound)
  else (some ⟨0, 0, 0, 0⟩, inbound)

/-- The masking key and the payload in `ReadFrame`. -/
def readPayload (masked : Bool) (payloadLen : Nat) (inbound : List Bytes) : Option Bytes × List Bytes :=
  match readMask masked inbound with
  | (none, inbound) => (none, inbound)
  | (some mask, inbound) =>
    match recvAll payloadLen inbound with
    | (none, inbound) => (none, inbound)
    | (some payload, inbound) => (some (if masked then xorMask mask payload else payload), inbound)

/-- `ReadFrame`. -/
def readFrame (inbound : List Bytes) : Bytes × List Bytes :=
  match recvAll 2 inbound with
  | (some [header0, header1], inbound) =>
    let opcode := header0 &&& 0x0F
    if opcode = 0x8 then ([], inbound)
    else
      let masked : Bool := header1 &&& 0x80 ≠ 0
      match readLength header1 inbound with
      | (none, inbound) => ([], inbound)
      | (some payloadLen, inbound) =>
        if payloadLen.toNat > kMaxWsPayload then ([], inbound)
        else
          match readPayload masked payloadLen.toNat inbound with
          | (none, inbound) => ([], inbound)
          | (some payload, inbound) =>
            if opcode = 0x9 ∨ opcode = 0xA then ([], inbound) else (payload, inbound)
  | (_, inbound) => ([], inbound)

/-- `ReadFrame` on a socket. -/
def Socket.readFrame (s : Socket) : Bytes × Socket :=
  let (payload, inbound) := Content.readFrame s.inbound
  (payload, { s with inbound := inbound, trace := s.trace ++ [.readFrame s.inbound payload] })

/-! ## CDP discovery -/

variable [JSONReader]

/-- `IsCDPAvailable`. -/
def isCDPAvailable (connection : Option Connection) (port : Int) : Bool :=
  let body := httpGet connection port "/json/version"
  !body.isEmpty && (findBytes (utf8 "Browser") body).isSome

/-- The first address in a list of targets, of those that a test takes; `none` where `GetDict` fails its
`CHECK`. -/
def firstUrl (test : DictValue → Bool) : ListValue → Option (Option String)
  | [] => some none
  | .dict target :: targets =>
    match test target, DictValue.findString target "webSocketDebuggerUrl" with
    | true, some url => if url ≠ "" then some (some url) else firstUrl test targets
    | _, _ => firstUrl test targets
  | _ :: _ => none

/-- The test of the first loop of `GetPageWebSocketUrl`. -/
def isPage (target : DictValue) : Bool :=
  DictValue.findString target "type" = some "page"

/-- `GetPageWebSocketUrl`; `none` where a `CHECK` fails, which ends the browser. -/
def getPageWebSocketUrl (connection : Option Connection) (port : Int) : Option String :=
  let body := httpGet connection port "/json"
  if body.isEmpty then some ""
  else
    match JSONReader.read body with
    | some (.list targets) => do
      match ← firstUrl isPage targets with
      | some url => return url
      | none => return (← firstUrl (fun _ => true) targets).getD ""
    | _ => some ""

/-! ## The command pipeline -/

/-- The path of a `ws://` address. -/
def pathOfUrl (wsUrl : String) : String :=
  let url := wsUrl.toList
  match url.tails.findIdx? "://".toList.isPrefixOf with
  | none => "/"
  | some schemeEnd =>
    let afterScheme := url.drop (schemeEnd + 3)
    if afterScheme.contains '/' then String.ofList (afterScheme.dropWhile (· ≠ '/')) else "/"

/-- The id of a message that is a dictionary with an integer one. -/
def messageId (json : Bytes) : Option Int32 :=
  match JSONReader.read json with
  | some (.dict dict) => DictValue.findInt dict "id"
  | _ => none

/-- The read loop for a command. Events, responses with another id, malformed messages and frames without a
payload are skipped; a response is logged when it is an error. Gives whether there was a response. -/
def awaitResponse (expectedId : Int32) : Nat → Socket → Bool × Socket
  | 0, s => (false, s)
  | retries + 1, s =>
    let (response, s) := s.readFrame
    if response.isEmpty then awaitResponse expectedId retries s
    else
      match JSONReader.read response with
      | some (.dict dict) =>
        let responseId := (DictValue.findInt dict "id").getD (-1)
        if responseId = expectedId then (true, s) else awaitResponse expectedId retries s
      | _ => awaitResponse expectedId retries s

/-- The send loop of `SendCommands`, on the commands with their ids, from a number on; `masks` are the keys
that `SendFrame` draws. Gives `all_success`, which a missing response leaves as it is. -/
def sendEach (masks : Nat → Mask) : Nat → List (Bytes × Int32) → Socket → Bool × Socket
  | _, [], s => (true, s)
  | i, (json, expectedId) :: commands, s =>
    let (sent, s) := s.sendFrame (masks i) json
    if !sent then (false, s)
    else
      let (_, s) := awaitResponse expectedId 20 s
      sendEach masks (i + 1) commands s

/-- The debugging endpoint as one call of `SendCommands` meets it: the connections that `TcpConnect`
makes, and what is drawn. -/
structure Endpoint where
  page : Option Connection
  webSocket : Option Connection
  key : String := ""
  masks : Nat → Mask := fun _ => ⟨0, 0, 0, 0⟩

/-- What `SendCommands` returns, and the WebSocket connection as it is left. -/
structure Outcome where
  result : Int
  webSocket : Option Socket

/-- `SendCommands`; `none` where a `CHECK` fails. -/
def sendCommands (e : Endpoint) (port : Int) (commandJsons : List Bytes) : Option Outcome :=
  if commandJsons.isEmpty then some ⟨-1, none⟩
  else do
    let wsUrl ← getPageWebSocketUrl e.page port
    if wsUrl = "" then return ⟨-1, none⟩
    else
      match e.webSocket with
      | none => return ⟨-1, none⟩
      | some c =>
        let (upgraded, sock) := (Socket.connect c).webSocketHandshake port (pathOfUrl wsUrl) e.key
        if !upgraded then return ⟨-1, some sock.close⟩
        else
          let commandIds := commandJsons.map fun json => (messageId json).getD (-1)
          let (allSuccess, sock) := sendEach e.masks 0 (commandJsons.zip commandIds) sock
          if allSuccess then return ⟨sock.fd, some sock⟩ else return ⟨-1, some sock.close⟩

/-! ## A page target -/

def pageUrl : String := "ws://127.0.0.1:9333/devtools/page/A"

/-- An endpoint with one page target that accepts the upgrade and then sends what is given; used on concrete
inputs only. -/
def pageEndpoint (segs : List Bytes) : Endpoint where
  page := some { fd := 7, inbound := [utf8 "HTTP/1.1 200 OK\r\n\r\n[", utf8 "]"] }
  webSocket := some { fd := 8, inbound := utf8 "HTTP/1.1 101 OK\r\nUpgrade: websocket\r\n\r\n" :: segs }

/-- The list of its targets is `[]`, and `0`, `1`, `00` and `e` stand for messages. -/
@[reducible]
def pageReader : JSONReader :=
  tableReader [
    (utf8 "[]", .list [.dict [("type", .string "page"), ("webSocketDebuggerUrl", .string pageUrl)]]),
    (utf8 "0", .dict [("id", .integer 0)]),
    (utf8 "1", .dict [("id", .integer 1)]),
    (utf8 "00", .dict [("error", .string "not found"), ("id", .integer 0)]),
    (utf8 "e", .dict [("method", .string "Page.loadEventFired")])]

end PureCloak.Content
