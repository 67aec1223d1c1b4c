import PureCloak.Library.Machine
import PureCloak.Net.Base

/-!
# The SOCKS5 datagram socket

`Socks5UdpClientSocket` together with what it works on: its caller, the TCP connection to the proxy, the UDP
socket to the relay. `World.step` is one step of them. `DoLoop` takes one step for each turn of its
loop, and what the lower sockets answer is in the event, so a run interleaves the calls of the caller, the
turns and the completions in every order they can have.

A `DCHECK` that fails is noted in `fired` and the code goes on, as it does in a release build; `NOTREACHED` and the use
of a null pointer end the process. The logs, which only statements read, hold what went over the sockets and what
the caller was told. A buffer that was freed while the TCP connection still had it is read as it was. The
functions whose whole body is `NOTREACHED`, and those that do nothing, are left out, as are the network log and
the traffic annotations.
-/

namespace PureCloak.Net

/-- `Socks5UdpClientSocket::State`. -/
inductive State where
  | STATE_NONE
  | STATE_TCP_CONNECT
  | STATE_TCP_CONNECT_COMPLETE
  | STATE_GREET_WRITE
  | STATE_GREET_WRITE_COMPLETE
  | STATE_GREET_READ
  | STATE_GREET_READ_COMPLETE
  | STATE_UDP_ASSOCIATE_WRITE
  | STATE_UDP_ASSOCIATE_WRITE_COMPLETE
  | STATE_UDP_ASSOCIATE_READ
  | STATE_UDP_ASSOCIATE_READ_COMPLETE
  | STATE_UDP_CONNECT
  | STATE_UDP_CONNECT_COMPLETE
  | STATE_CONNECTED
deriving DecidableEq

def kSOCKS5Version : UInt8 := 0x05
def kUDPAssociateCommand : UInt8 := 0x03
def kNullByte : UInt8 := 0x00
def kSOCKS5UDPHeaderSize : Nat := 3
def kIPv4Size : Nat := 4
def kIPv6Size : Nat := 16
def kPortSize : Nat := 2

/-- A callback of the caller. -/
abbrev Callback := Nat

/-- The members of `Socks5UdpClientSocket`. Of `tcp_socket_` and `udp_socket_` it is said whether they are set, and of
`user_read_buf_` how long it is. -/
structure Socks5UdpClientSocket where
  socksProxyAddress : IPEndPoint
  targetAddress : IPEndPoint := {}
  tcpSocket : Bool := false
  udpSocket : Bool := false
  relayAddress : IPEndPoint := {}
  localAddress : IPEndPoint := {}
  writeBuf : Option DrainableIOBuffer := none
  readBuf : Option GrowableIOBuffer := none
  userConnectCallback : Option Callback := none
  userReadCallback : Option Callback := none
  userWriteCallback : Option Callback := none
  userReadBuf : Option Nat := none
  nextState : State := .STATE_NONE
  udpConnected : Bool := false
  socksHandshakeComplete : Bool := false
  closed : Bool := false

/-! ## Packets -/

def kSocks5GreetData : List UInt8 := [0x05, 0x01, 0x00]

/-- `BuildUDPAssociateWriteBuffer`. -/
def buildUDPAssociateWriteBuffer : List UInt8 :=
  [kSOCKS5Version, kUDPAssociateCommand, kNullByte, 0x01, 0x00, 0x00, 0x00, 0x00, 0x00, 0x00]

/-- `BuildUDPEncapsulatedPacket`. -/
def buildUDPEncapsulatedPacket (target : IPEndPoint) (data : List UInt8) : List UInt8 :=
  ([0x00, 0x00, 0x00] : List UInt8) ++
  (if target.address.isIPv4 then 0x01 :: target.address.bytes.take kIPv4Size
    else 0x04 :: target.address.bytes.take kIPv6Size) ++
  [(target.port >>> 8).toUInt8, target.port.toUInt8] ++ data

/-- Where the payload of a datagram from the relay starts, or nothing if `OnReadComplete` rejects the datagram. -/
def payloadOffset (data : List UInt8) : Option Nat :=
  if data.length < 10 then none
  else
    let offset := kSOCKS5UDPHeaderSize + 1
    let atyp := data.getD kSOCKS5UDPHeaderSize 0
    let afterAddress :=
      if atyp = 0x01 then some (offset + 4)
      else if atyp = 0x04 then some (offset + 16)
      else if atyp = 0x03 then
        if data.length ≤ offset then none else some (offset + (1 + (data.getD offset 0).toNat))
      else none
    match afterAddress with
    | none => none
    | some offset => if data.length < offset + 2 then none else some (offset + 2)

/-- What `OnReadComplete` makes of a result of the UDP socket: the result for the caller, and the bytes that are
copied into a buffer of a length. -/
def readResult (userReadBuf : Option Nat) (result : Int) (data : List UInt8) : Int × List UInt8 :=
  match userReadBuf with
  | none => (result, [])
  | some bufLen =>
    if 0 < result then
      match payloadOffset data with
      | none => (ERR_SOCKS_CONNECTION_FAILED, [])
      | some offset =>
        let stored := (data.drop offset).take bufLen
        (stored.length, stored)
    else (result, [])

/-- What becomes of the reply to `UDP ASSOCIATE` when some of it was read: more is to be read, into a buffer of a
capacity, or it is rejected, or it names the relay. -/
inductive Reply where
  | incomplete (capacity : Nat)
  | rejected
  | relay (address : IPEndPoint)

/-- The size of an address in the reply. -/
def addressSize (addressType : UInt8) (readData : List UInt8) : Option Nat :=
  if addressType = 0x01 then some kIPv4Size
  else if addressType = 0x04 then some kIPv6Size
  else if addressType = 0x03 then some (readData.getD 4 0).toNat
  else none

/-- The number of bytes that are waited for. -/
def totalNeeded (addressType : UInt8) (addressSize : Nat) : Nat :=
  if addressType = 0x03 then 4 + 1 + addressSize + kPortSize else 5 + addressSize + kPortSize

/-- The relay that a reply names. -/
def relayEndPoint (proxy : IPEndPoint) (addressType : UInt8) (addressSize : Nat) (readData : List UInt8) :
    IPEndPoint :=
  let address : IPAddress × Nat :=
    if addressType = 0x01 then (⟨(readData.drop 4).take kIPv4Size⟩, 8)
    else if addressType = 0x04 then (⟨(readData.drop 4).take kIPv6Size⟩, 4 + kIPv6Size)
    else (proxy.address, 4 + 1 + addressSize)
  ⟨address.1, u16FromBigEndian (readData.getD address.2 0) (readData.getD (address.2 + 1) 0)⟩

/-- The part of `DoUDPAssociateReadComplete` that looks at the buffer. -/
def parseReply (proxy : IPEndPoint) (b : GrowableIOBuffer) : Reply :=
  if b.offset < 5 then .incomplete b.capacity
  else
    let readData := b.spanBeforeOffset
    if readData.getD 0 0 ≠ kSOCKS5Version ∨ readData.getD 2 0 ≠ kNullByte then .rejected
    else if readData.getD 1 0 ≠ 0x00 then .rejected
    else
      let addressType := readData.getD 3 0
      if addressType = 0x03 ∧ b.offset < 6 then .incomplete b.capacity
      else
        match addressSize addressType readData with
        | none => .rejected
        | some size =>
          if b.offset < totalNeeded addressType size then .incomplete (totalNeeded addressType size)
          else .relay (relayEndPoint proxy addressType size readData)

/-! ## The world of a socket -/

/-- A call of the caller. -/
inductive Call where
  | connect
  | connectAsync (callback : Callback)
  | read (callback : Callback)
  | write (callback : Callback)
deriving DecidableEq

/-- How the caller connects. -/
inductive Path where
  | sync
  | async
deriving DecidableEq

/-- What the caller has done: how it has connected, and which calls it has made that are not completed. -/
structure Caller where
  path : Option Path := none
  connecting : Bool := false
  reading : Bool := false
  writing : Bool := false
deriving DecidableEq

/-- A call of the caller is completed. -/
def Caller.complete (c : Caller) : Call → Caller
  | .connect => c
  | .connectAsync _ => { c with connecting := false }
  | .read _ => { c with reading := false }
  | .write _ => { c with writing := false }

/-- What the caller is told: what a call returns, what is copied into its buffer, and with what result the callback of
a call is run. -/
inductive Report where
  | returned (call : Call) (result : Int)
  | stored (bytes : List UInt8)
  | ran (call : Call) (result : Int)
deriving DecidableEq

/-- The assertions: the `DCHECK`s of each function, `NOTREACHED`, and the use of a buffer that is null. -/
inductive Assertion where
  | connectNotConnecting
  | connectAsyncNotConnecting
  | connectAsyncCallback
  | readNotReading
  | readNotWriting
  | writeNotReading
  | writeNotWriting
  | doCallbackNotPending
  | doCallbackCallback
  | onIOCompleteState
  | doLoopState
  | doLoopOK (state : State)
  | doTCPConnectNoSocket
  | notReached
  | nullBuffer
deriving DecidableEq

/-- What `DoLoop` returns to. -/
inductive Frame where
  | connectAsync (callback : Callback)
  | write (payload : List UInt8) (callback : Callback)
  | onIOComplete

/-- What the code is about to do: nothing, a turn of `DoLoop` with a result, a write of a packet to the UDP socket, in
`Write` or else in `OnIOComplete`, or a read from it in `Read`. -/
inductive Control where
  | idle
  | doLoop (frame : Frame) (result : Int)
  | udpWrite (caller : Option Callback) (packet : List UInt8) (callback : Option Callback)
  | udpRead (callback : Callback)

/-- An operation of the TCP connection. -/
inductive TcpOp where
  | connect
  | write
  | read
deriving DecidableEq

/-- The socket, its caller and the lower sockets. -/
structure World extends Socks5UdpClientSocket where
  control : Control := .idle
  caller : Caller := {}
  /-- The operation that the TCP connection has not completed. -/
  tcpPending : Option TcpOp := none
  /-- The UDP socket has not completed a read. -/
  udpReading : Bool := false
  /-- The packet and the callback of the write that the UDP socket has not completed. -/
  udpWriting : Option (List UInt8 × Option Callback) := none
  /-- The bytes that the TCP connection has taken. -/
  sent : List UInt8 := []
  /-- The bytes that came over the TCP connection. -/
  received : List UInt8 := []
  /-- The datagrams that the UDP socket has taken. -/
  datagrams : List (List UInt8) := []
  reports : List Report := []
  fired : List Assertion := []
  aborted : Bool := false

/-- What a lower socket answers, or that none is asked. -/
inductive Answer where
  | none
  | pending
  | result (rv : Int)
  | bytes (data : List UInt8)
  | udp (opened connected : Int) (localAddress : IPEndPoint)

namespace World

/-- `DCHECK`. -/
def dcheck (w : World) (a : Assertion) (c : Prop) [Decidable c] : World :=
  if c then w else { w with fired := w.fired ++ [a] }

/-- `NOTREACHED`, or the end of a process that uses a null pointer. -/
def abort (w : World) (a : Assertion) : World :=
  { w with fired := w.fired ++ [a], control := .idle, aborted := true }

/-- A call returns. -/
def returns (w : World) (call : Call) (rv : Int) : World :=
  { w with
    reports := w.reports ++ [.returned call rv]
    caller := if rv = ERR_IO_PENDING then w.caller else w.caller.complete call }

/-- The callback of a call is run. -/
def run (w : World) (call : Call) (rv : Int) : World :=
  { w with reports := w.reports ++ [.ran call rv], caller := w.caller.complete call }

/-! ## The TCP connection -/

/-- An operation of the TCP connection is done with a result that it can have. -/
def tcpDone (w : World) : TcpOp → Answer → Option (World × Int)
  | .connect, .result rv => if rv = ERR_IO_PENDING then none else some (w, rv)
  | .write, .result rv =>
    match w.writeBuf with
    | none => none
    | some b =>
      if rv = ERR_IO_PENDING ∨ (b.remaining.length : Int) < rv then none
      else some ({ w with sent := w.sent ++ b.remaining.take rv.toNat }, rv)
  | .read, .result rv => if rv < 0 ∧ rv ≠ ERR_IO_PENDING then some (w, rv) else none
  | .read, .bytes data =>
    match w.readBuf with
    | none => none
    | some b =>
      if data.length ≤ b.remainingCapacity then
        some ({ w with received := w.received ++ data, readBuf := some (b.put data) }, data.length)
      else none
  | _, _ => none

/-- An operation is started on the TCP connection. -/
def tcp (w : World) (op : TcpOp) : Answer → Option (World × Int)
  | .pending => some ({ w with tcpPending := some op }, ERR_IO_PENDING)
  | answer => w.tcpDone op answer

/-! ## The handshake -/

def doTCPConnect (w : World) (answer : Answer) : Option (World × Int) :=
  let w := w.dcheck .doTCPConnectNoSocket (w.tcpSocket = false)
  tcp { w with nextState := .STATE_TCP_CONNECT_COMPLETE, tcpSocket := true } .connect answer

def doTCPConnectComplete (w : World) (result : Int) : World × Int :=
  if result ≠ OK then (w, ERR_PROXY_CONNECTION_FAILED)
  else ({ w with nextState := .STATE_GREET_WRITE }, OK)

/-- A message is written, or what is left of it. -/
def writeMessage (message : List UInt8) (complete : State) (w : World) (answer : Answer) :
    Option (World × Int) :=
  let writeBuf := w.writeBuf.getD { data := message }
  tcp { w with writeBuf := some writeBuf, nextState := complete } .write answer

/-- A message was written in part, and is written further, or it is done. -/
def writeMessageComplete (again next : State) (w : World) (result : Int) : World × Int :=
  if result < 0 then (w, result)
  else
    match w.writeBuf with
    | none => (w.abort .nullBuffer, OK)
    | some b =>
      let b := b.didConsume result.toNat
      if b.remaining = [] then ({ w with writeBuf := none, nextState := next }, OK)
      else ({ w with writeBuf := some b, nextState := again }, OK)

/-- More is read into the buffer, or into a new one of a capacity. -/
def readInto (capacity : Nat) (complete : State) (w : World) (answer : Answer) : Option (World × Int) :=
  let readBuf := w.readBuf.getD { capacity := capacity }
  tcp { w with nextState := complete, readBuf := some readBuf } .read answer

def doGreetWrite (w : World) (answer : Answer) : Option (World × Int) :=
  writeMessage kSocks5GreetData .STATE_GREET_WRITE_COMPLETE w answer

def doGreetWriteComplete (w : World) (result : Int) : World × Int :=
  writeMessageComplete .STATE_GREET_WRITE .STATE_GREET_READ w result

def doGreetRead (w : World) (answer : Answer) : Option (World × Int) :=
  readInto 2 .STATE_GREET_READ_COMPLETE w answer

def doGreetReadComplete (w : World) (result : Int) : World × Int :=
  if result < 0 then (w, result)
  else if result = 0 then (w, ERR_SOCKS_CONNECTION_FAILED)
  else
    match w.readBuf with
    | none => (w.abort .nullBuffer, OK)
    | some b =>
      let b := b.advance result.toNat
      if 0 < b.remainingCapacity then
        ({ w with readBuf := some b, nextState := .STATE_GREET_READ }, OK)
      else
        let readData := b.spanBeforeOffset
        if readData.getD 0 0 ≠ kSOCKS5Version then
          ({ w with readBuf := some b }, ERR_SOCKS_CONNECTION_FAILED)
        else if readData.getD 1 0 ≠ 0x00 then
          ({ w with readBuf := some b }, ERR_SOCKS_CONNECTION_FAILED)
        else ({ w with readBuf := none, nextState := .STATE_UDP_ASSOCIATE_WRITE }, OK)

def doUDPAssociateWrite (w : World) (answer : Answer) : Option (World × Int) :=
  writeMessage buildUDPAssociateWriteBuffer .STATE_UDP_ASSOCIATE_WRITE_COMPLETE w answer

def doUDPAssociateWriteComplete (w : World) (result : Int) : World × Int :=
  writeMessageComplete .STATE_UDP_ASSOCIATE_WRITE .STATE_UDP_ASSOCIATE_READ w result

def doUDPAssociateRead (w : World) (answer : Answer) : Option (World × Int) :=
  readInto 5 .STATE_UDP_ASSOCIATE_READ_COMPLETE w answer

def doUDPAssociateReadComplete (w : World) (result : Int) : World × Int :=
  if result < 0 then (w, result)
  else if result = 0 then (w, ERR_SOCKS_CONNECTION_FAILED)
  else
    match w.readBuf with
    | none => (w.abort .nullBuffer, OK)
    | some b =>
      let b := b.advance result.toNat
      match parseReply w.socksProxyAddress b with
      | .incomplete capacity =>
        ({ w with
          readBuf := some { b with capacity := capacity }
          nextState := .STATE_UDP_ASSOCIATE_READ }, OK)
      | .rejected => ({ w with readBuf := some b }, ERR_SOCKS_CONNECTION_FAILED)
      | .relay address =>
        ({ w with relayAddress := address, readBuf := none, nextState := .STATE_UDP_CONNECT }, OK)

def doUDPConnect (w : World) : Answer → Option (World × Int)
  | .udp opened connected localAddress =>
    let w := { w with nextState := .STATE_UDP_CONNECT_COMPLETE, udpSocket := true }
    if opened = ERR_IO_PENDING ∨ connected = ERR_IO_PENDING then none
    else if opened ≠ OK then some (w, opened)
    else if connected ≠ OK then some (w, connected)
    else
      some ({ w with
        localAddress := localAddress
        udpConnected := true
        socksHandshakeComplete := true
        nextState := .STATE_CONNECTED }, OK)
  | _ => none

def doUDPConnectComplete (w : World) (result : Int) : World × Int :=
  (w, result)

/-- A function that asks no lower socket. -/
def quiet (r : World × Int) : Answer → Option (World × Int)
  | .none => some r
  | _ => none

/-- The body of the loop in `DoLoop`. -/
def doLoopBody (w : World) (rv : Int) (answer : Answer) : Option (World × Int) :=
  let state := w.nextState
  let w := { w with nextState := .STATE_NONE }
  let ok := w.dcheck (.doLoopOK state) (rv = OK)
  match state with
  | .STATE_TCP_CONNECT => ok.doTCPConnect answer
  | .STATE_TCP_CONNECT_COMPLETE => quiet (w.doTCPConnectComplete rv) answer
  | .STATE_GREET_WRITE => ok.doGreetWrite answer
  | .STATE_GREET_WRITE_COMPLETE => quiet (w.doGreetWriteComplete rv) answer
  | .STATE_GREET_READ => ok.doGreetRead answer
  | .STATE_GREET_READ_COMPLETE => quiet (w.doGreetReadComplete rv) answer
  | .STATE_UDP_ASSOCIATE_WRITE => ok.doUDPAssociateWrite answer
  | .STATE_UDP_ASSOCIATE_WRITE_COMPLETE => quiet (w.doUDPAssociateWriteComplete rv) answer
  | .STATE_UDP_ASSOCIATE_READ => ok.doUDPAssociateRead answer
  | .STATE_UDP_ASSOCIATE_READ_COMPLETE => quiet (w.doUDPAssociateReadComplete rv) answer
  | .STATE_UDP_CONNECT => ok.doUDPConnect answer
  | .STATE_UDP_CONNECT_COMPLETE => quiet (w.doUDPConnectComplete rv) answer
  | .STATE_NONE | .STATE_CONNECTED => quiet (w.abort .notReached, rv) answer

/-- `DoLoop` is called. -/
def doLoop (w : World) (frame : Frame) (result : Int) : World :=
  { w.dcheck .doLoopState (w.nextState ≠ .STATE_NONE) with control := .doLoop frame result }

/-- `DoCallback`. -/
def doCallback (w : World) (result : Int) : World :=
  let w := w.dcheck .doCallbackNotPending (result ≠ ERR_IO_PENDING)
  let w := w.dcheck .doCallbackCallback (w.userConnectCallback ≠ none)
  match w.userConnectCallback with
  | none => w.abort .doCallbackCallback
  | some callback => { w with userConnectCallback := none }.run (.connectAsync callback) result

/-- What `ConnectAsync`, `Write` or `OnIOComplete` does when `DoLoop` has returned. -/
def afterDoLoop (w : World) (rv : Int) : Frame → World
  | .connectAsync callback =>
    let w := if rv ≠ ERR_IO_PENDING then { w with userConnectCallback := none } else w
    w.returns (.connectAsync callback) rv
  | .write payload callback =>
    if rv = ERR_IO_PENDING then w.returns (.write callback) ERR_IO_PENDING
    else
      let w := { w with userWriteCallback := none, writeBuf := none }
      if rv ≠ OK then w.returns (.write callback) rv
      else
        -- the callback was moved away before the loop
        { w with control :=
            .udpWrite (some callback) (buildUDPEncapsulatedPacket w.targetAddress payload) none }
  | .onIOComplete =>
    if rv = ERR_IO_PENDING then w
    else if w.userConnectCallback ≠ none then w.doCallback rv
    else
      match w.userWriteCallback with
      | none => w
      | some callback =>
        if rv = OK then
          match w.writeBuf with
          | none => w.abort .nullBuffer
          | some b =>
            { w with
              userWriteCallback := none
              writeBuf := none
              control := .udpWrite none (buildUDPEncapsulatedPacket w.targetAddress b.remaining)
                (some callback) }
        else { w with userWriteCallback := none, writeBuf := none }.run (.write callback) rv

/-- A turn of the loop in `DoLoop`, and what follows if it is the last one. -/
def turn (w : World) (frame : Frame) (rv : Int) (answer : Answer) : Option World :=
  (w.doLoopBody rv answer).map fun (w, rv) =>
    if w.aborted then w
    else if rv ≠ ERR_IO_PENDING ∧ w.nextState ≠ .STATE_NONE then
      { w with control := .doLoop frame rv }
    else { w with control := .idle }.afterDoLoop rv frame

/-! ## Calls and completions -/

/-- `Connect`, given what opening the UDP socket returns. -/
def connect (w : World) (address : IPEndPoint) (opened : Int) (localAddress : IPEndPoint) : World :=
  let w := { w with caller := { w.caller with path := some .sync } }
  let w := w.dcheck .connectNotConnecting (w.nextState = .STATE_NONE)
  let w := { w with targetAddress := address, udpSocket := true }
  if opened ≠ OK then w.returns .connect opened
  else
    { w with localAddress := localAddress, nextState := .STATE_TCP_CONNECT }.returns .connect OK

/-- `ConnectAsync`, up to its call of `DoLoop`. -/
def connectAsync (w : World) (address : IPEndPoint) (callback : Callback) : World :=
  let w := { w with caller := { w.caller with path := some .async, connecting := true } }
  let w := w.dcheck .connectAsyncNotConnecting (w.nextState = .STATE_NONE)
  let w := w.dcheck .connectAsyncCallback (w.userConnectCallback ≠ none)
  { w with
    targetAddress := address
    userConnectCallback := some callback
    nextState := .STATE_TCP_CONNECT }.doLoop (.connectAsync callback) OK

/-- `Close`; the sockets that it closes drop what they have not completed. -/
def close (w : World) : World :=
  { w with
    closed := true
    userConnectCallback := none
    userReadCallback := none
    userWriteCallback := none
    tcpSocket := false
    udpSocket := false
    nextState := .STATE_NONE
    socksHandshakeComplete := false
    udpConnected := false
    tcpPending := none
    udpReading := false
    udpWriting := none
    caller := { w.caller with connecting := false, reading := false, writing := false } }

/-- `Read`, up to its call of the UDP socket. -/
def read (w : World) (bufLen : Nat) (callback : Callback) : World :=
  let w := { w with caller := { w.caller with reading := true } }
  let w := w.dcheck .readNotReading (w.userReadCallback = none)
  let w := w.dcheck .readNotWriting (w.userWriteCallback = none)
  if ¬ w.udpConnected then w.returns (.read callback) ERR_SOCKET_NOT_CONNECTED
  else
    { w with
      userReadBuf := some bufLen
      userReadCallback := some callback
      readBuf := some (w.readBuf.getD { capacity := max bufLen 65536 })
      control := .udpRead callback }

/-- `OnReadComplete`. -/
def onReadComplete (w : World) (result : Int) (data : List UInt8) : World :=
  let r := readResult w.userReadBuf result data
  let w := { w with reports := w.reports ++ [Report.stored r.2] }
  let callback := w.userReadCallback
  let w := { w with userReadCallback := none, userReadBuf := none, readBuf := none }
  match callback with
  | none => w
  | some callback => w.run (.read callback) r.1

/-- The UDP socket is done with a read. -/
def udpReadDone (w : World) : Answer → Option World
  | .result rv => if rv < 0 ∧ rv ≠ ERR_IO_PENDING then some (w.onReadComplete rv []) else none
  | .bytes data =>
    if data.length ≤ (w.readBuf.map GrowableIOBuffer.capacity).getD 0 then
      some (w.onReadComplete data.length data)
    else none
  | _ => none

/-- What `Read` does when the UDP socket has answered. -/
def afterUdpRead (w : World) (callback : Callback) (answer : Answer) : Option World :=
  let w := { w with control := .idle }
  match answer with
  | .pending => some ({ w with udpReading := true }.returns (.read callback) ERR_IO_PENDING)
  | answer => (w.udpReadDone answer).map fun w => w.returns (.read callback) ERR_IO_PENDING

/-- `Write`, up to its call of `DoLoop` or of the UDP socket. -/
def write (w : World) (payload : List UInt8) (callback : Callback) : World :=
  let w := { w with caller := { w.caller with writing := true } }
  let w := w.dcheck .writeNotReading (w.userReadCallback = none)
  let w := w.dcheck .writeNotWriting (w.userWriteCallback = none)
  let packet := buildUDPEncapsulatedPacket w.targetAddress payload
  if w.closed then w.returns (.write callback) ERR_CONNECTION_CLOSED
  else if ¬ w.udpConnected then
    if w.nextState = .STATE_NONE then w.returns (.write callback) ERR_SOCKET_NOT_CONNECTED
    else
      { w with writeBuf := some { data := packet }, userWriteCallback := some callback }.doLoop
        (.write payload callback) OK
  else { w with control := .udpWrite (some callback) packet (some callback) }

/-- The UDP socket takes a packet, unless there is an error. -/
def takePacket (w : World) (packet : List UInt8) (rv : Int) : World :=
  if rv < 0 then w else { w with datagrams := w.datagrams ++ [packet] }

/-- What `Write` or `OnIOComplete` does when the UDP socket has answered. -/
def afterUdpWrite (w : World) (caller : Option Callback) (packet : List UInt8)
    (callback : Option Callback) (rv : Int) : World :=
  let w := { w with control := .idle }
  let w :=
    if rv = ERR_IO_PENDING then { w with udpWriting := some (packet, callback) }
    else w.takePacket packet rv
  match caller with
  | none => w
  | some caller =>
    -- `user_write_callback_` is given a callback that was moved away
    let w :=
      if rv = ERR_IO_PENDING then
        { w with userWriteCallback := none, writeBuf := some { data := packet } }
      else w
    w.returns (.write caller) rv

/-- The UDP socket is done with a write and runs the callback it was given. -/
def udpWriteDone (w : World) (packet : List UInt8) (callback : Option Callback) (rv : Int) : World :=
  let w := { w with udpWriting := none }.takePacket packet rv
  match callback with
  | none => w
  | some callback => w.run (.write callback) rv

/-- `OnIOComplete`, up to its call of `DoLoop`. -/
def onIOComplete (w : World) (result : Int) : World :=
  (w.dcheck .onIOCompleteState (w.nextState ≠ .STATE_NONE)).doLoop .onIOComplete result

end World

/-- What happens next: a call of the caller, a turn of `DoLoop`, an answer of the UDP socket that the code waits for, or
a completion. -/
inductive Event where
  | connect (address : IPEndPoint) (opened : Int) (localAddress : IPEndPoint)
  | connectAsync (address : IPEndPoint) (callback : Callback)
  | read (bufLen : Nat) (callback : Callback)
  | write (payload : List UInt8) (callback : Callback)
  | close
  | turn (answer : Answer)
  | udpReads (answer : Answer)
  | udpWrites (rv : Int)
  | tcpCompletes (answer : Answer)
  | udpReadCompletes (answer : Answer)
  | udpWriteCompletes (rv : Int)

namespace World

/-- An event while the code is idle. -/
def stepIdle (w : World) : Event → Option World
  | .connect address opened localAddress => some (w.connect address opened localAddress)
  | .connectAsync address callback => some (w.connectAsync address callback)
  | .read bufLen callback => some (w.read bufLen callback)
  | .write payload callback => some (w.write payload callback)
  | .close => some w.close
  | .tcpCompletes answer =>
    match w.tcpPending with
    | none => none
    | some op => ({ w with tcpPending := none }.tcpDone op answer).map fun (r : World × Int) =>
        r.1.onIOComplete r.2
  | .udpReadCompletes answer =>
    if w.udpReading then { w with udpReading := false }.udpReadDone answer else none
  | .udpWriteCompletes rv =>
    match w.udpWriting with
    | none => none
    | some (packet, callback) =>
      if rv = ERR_IO_PENDING then none else some (w.udpWriteDone packet callback rv)
  | _ => none

/-- One step; an event that cannot happen is not enabled. -/
def step (w : World) (e : Event) : Option World :=
  if w.aborted then none
  else
    match w.control, e with
    | .idle, e => w.stepIdle e
    | .doLoop frame rv, .turn answer => w.turn frame rv answer
    | .udpRead callback, .udpReads answer => w.afterUdpRead callback answer
    | .udpWrite caller packet callback, .udpWrites rv =>
      some (w.afterUdpWrite caller packet callback rv)
    | _, _ => none

end World

/-- A socket that was just made. -/
def fresh (proxy : IPEndPoint) : World where
  socksProxyAddress := proxy

end PureCloak.Net
