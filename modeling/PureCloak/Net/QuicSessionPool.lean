import PureCloak.Launcher.IsolationSwitches
import PureCloak.Net.Socks5UdpClientSocket

/-!
# The sockets of QUIC

`QuicSessionPool::CreateSocket` reads the proxy from the command line of the process. A proxy that it cannot read is no
proxy for it, and the socket that it makes then sends its datagrams directly. `forProxy_iff` says for which spellings of
a SOCKS5 proxy the socket is one for this proxy.
-/

namespace PureCloak.Net
open PureCloak.Base PureCloak.Profiles PureCloak.Launcher

/-- What a `GURL` says of itself; `intPort` is -1 where no port is given. -/
structure GURL where
  isValid : Bool
  hasHost : Bool
  hostNoBrackets : String
  intPort : Int

/-- The parsers of `GURL` and of `IPAddress::FromString`, which are not in the repository. -/
structure Parsers where
  gurl : String → GURL
  fromString : String → Option IPAddress

/-- A socket for datagrams: one that the client socket factory makes, or one that goes through a proxy. -/
inductive DatagramClientSocket where
  | direct
  | socks5 (socket : Socks5UdpClientSocket)

def kProxyServerSwitch : String := "proxy-server"

/-- `starts_with`. -/
def startsWith (s start : String) : Bool :=
  start.toList.isPrefixOf s.toList

/-- `QuicSessionPool::CreateSocket`. -/
def createSocket (parsers : Parsers) (cmd : CommandLine) : DatagramClientSocket :=
  if cmd.hasSwitch kProxyServerSwitch then
    let proxy := cmd.getSwitchValueASCII kProxyServerSwitch
    if startsWith proxy "socks5://" then
      let proxyUrl := parsers.gurl proxy
      if proxyUrl.isValid ∧ proxyUrl.hasHost then
        match parsers.fromString proxyUrl.hostNoBrackets with
        | some ipAddress =>
          .socks5 { socksProxyAddress := ⟨ipAddress, UInt16.ofInt proxyUrl.intPort⟩ }
        | none => .direct
      else .direct
    else .direct
  else .direct

/-! ## Proxies -/

/-- The host of a proxy: the text of an IP address, with the bytes of the address, or a name. -/
inductive ProxyHost where
  | ipv4 (text : String) (bytes : List UInt8) (size : bytes.length = kIPv4Size)
  | ipv6 (text : String) (bytes : List UInt8) (size : bytes.length = kIPv6Size)
  | name (text : String)

def ProxyHost.text : ProxyHost → String
  | .ipv4 text _ _ => text
  | .ipv6 text _ _ => "[" ++ text ++ "]"
  | .name text => text

def ProxyHost.address : ProxyHost → Option IPAddress
  | .ipv4 _ bytes _ | .ipv6 _ bytes _ => some ⟨bytes⟩
  | .name _ => none

/-- A port and its digits. -/
structure ProxyPort where
  text : String
  value : UInt16
  digits : text.toList.all Char.isDigit = true
  nonempty : text ≠ ""
  reads : readDigits false 0 text.toList = ((value.toNat : Int), true)

/-- The URI of a SOCKS5 proxy; the text of an IP address is ASCII. -/
structure ProxyUri where
  scheme : String
  host : ProxyHost
  port : Option ProxyPort
  socks5 : scheme.toList.map Char.toLower = "socks5".toList
  ascii : host.address ≠ none → isStringASCII host.text = true

def ProxyUri.portText (p : ProxyUri) : String :=
  match p.port with
  | some port => ":" ++ port.text
  | none => ""

def ProxyUri.text (p : ProxyUri) : String :=
  p.scheme ++ "://" ++ p.host.text ++ p.portText

/-- The parsers read the URI of a proxy as it is meant. -/
structure Parsers.Read (parsers : Parsers) (p : ProxyUri) : Prop where
  isValid : (parsers.gurl p.text).isValid = true
  hasHost : (parsers.gurl p.text).hasHost = true
  host : parsers.fromString (parsers.gurl p.text).hostNoBrackets = p.host.address
  port : (parsers.gurl p.text).intPort =
    match p.port with
    | some port => (port.value.toNat : Int)
    | none => -1

/-- The port of a SOCKS5 proxy where none is given. -/
def defaultPort : UInt16 := 1080

/-- The socket goes through the proxy. -/
def DatagramClientSocket.ForProxy (p : ProxyUri) : DatagramClientSocket → Prop
  | .direct => False
  | .socks5 socket =>
    some socket.socksProxyAddress.address = p.host.address ∧
    socket.socksProxyAddress.port = (p.port.map ProxyPort.value).getD defaultPort

/-- The scheme is in lower case, the host is an IP address, and a port is given. -/
structure ProxyUri.Covered (p : ProxyUri) : Prop where
  scheme : p.scheme = "socks5"
  address : p.host.address ≠ none
  port : p.port ≠ none

/-! ## Texts -/

/-- A text is ASCII when its parts are. -/
lemma isStringASCII_append (s t : String) :
    isStringASCII (s ++ t) = (isStringASCII s && isStringASCII t) := by
  rw [isStringASCII, String.toList_append, List.all_append]
  rfl

/-- Digits are ASCII. -/
lemma isStringASCII_digits {s : String} (h : s.toList.all Char.isDigit = true) :
    isStringASCII s = true := by
  apply List.all_eq_true.mpr
  intro c hc
  have digit := List.all_eq_true.mp h c hc
  simp only [Char.isDigit, Bool.and_eq_true, decide_eq_true_eq] at digit
  have le : c.val.toNat ≤ 57 := UInt32.le_iff_toNat_le.mp digit.2
  rw [decide_eq_true_eq]
  show c.val.toNat < 128
  omega

/-- The text of a port is ASCII. -/
lemma ProxyUri.isStringASCII_portText (p : ProxyUri) : isStringASCII p.portText = true := by
  rw [portText]
  cases p.port with
  | none => rfl
  | some port =>
    rw [isStringASCII_append, isStringASCII_digits port.digits]
    rfl

/-- Changing the case of a scheme does not change its length. -/
lemma ProxyUri.length_scheme (p : ProxyUri) : p.scheme.toList.length = "socks5".toList.length := by
  rw [← p.socks5, List.length_map]

/-- The code looks at the scheme as it is written. -/
lemma ProxyUri.startsWith_iff (p : ProxyUri) : startsWith p.text "socks5://" = true ↔ p.scheme = "socks5" := by
  have text : p.text.toList = p.scheme.toList ++ ("://".toList ++ (p.host.text.toList ++ p.portText.toList)) := by
    simp only [ProxyUri.text, String.toList_append, List.append_assoc]
  have start : "socks5://".toList = "socks5".toList ++ "://".toList := rfl
  rw [startsWith, List.isPrefixOf_iff_prefix, text, start]
  constructor
  · rintro ⟨rest, eq⟩
    rw [List.append_assoc] at eq
    exact (String.toList_inj.mp (List.append_inj eq p.length_scheme.symm).1).symm
  · intro scheme
    rw [scheme, List.prefix_append_right_inj]
    exact List.prefix_append _ _

/-- What the code finds under the switch, if the scheme is in lower case and the host an IP address. -/
lemma ProxyUri.isStringASCII_text {p : ProxyUri} (scheme : p.scheme = "socks5")
    (address : p.host.address ≠ none) : isStringASCII p.text = true := by
  rw [ProxyUri.text, isStringASCII_append, isStringASCII_append, isStringASCII_append,
    p.isStringASCII_portText, p.ascii address, scheme]
  rfl

/-- A URI has three characters at least. -/
lemma ProxyUri.text_ne (p : ProxyUri) : p.text ≠ "" := by
  intro empty
  have length := congrArg (fun s : String => s.toList.length) empty
  simp [ProxyUri.text] at length

/-! ## What is made -/

/-- What is made for a proxy: a direct socket, unless the scheme is in lower case and the host is an IP address. -/
lemma createSocket_eq {parsers : Parsers} {p : ProxyUri} (read : parsers.Read p) {cmd : CommandLine}
    (passed : cmd.switchValue "proxy-server" = some p.text) :
    createSocket parsers cmd =
      match p.host.address with
      | some address =>
        if p.scheme = "socks5" then
          .socks5 { socksProxyAddress := ⟨address, UInt16.ofInt (parsers.gurl p.text).intPort⟩ }
        else .direct
      | none => .direct := by
  have has : cmd.hasSwitch kProxyServerSwitch = true := by
    rw [CommandLine.hasSwitch, kProxyServerSwitch, passed]
    rfl
  have value : cmd.getSwitchValueASCII kProxyServerSwitch = if isStringASCII p.text then p.text else "" := by
    rw [CommandLine.getSwitchValueASCII, kProxyServerSwitch, passed]
    rfl
  rw [createSocket, if_pos has, value]
  cases ascii : isStringASCII p.text with
  | false =>
    -- the value is taken as empty
    show DatagramClientSocket.direct = _
    cases address : p.host.address with
    | none => rfl
    | some a =>
      have scheme : p.scheme ≠ "socks5" := by
        intro scheme
        rw [p.isStringASCII_text scheme (by simp [address])] at ascii
        cases ascii
      dsimp only
      rw [if_neg scheme]
  | true =>
    simp only [if_true, p.startsWith_iff, read.isValid, read.hasHost, and_self, read.host]
    cases p.host.address with
    | none => exact ite_self _
    | some a => rfl

/-- A port is read back from its number. -/
lemma ofInt_toNat (port : UInt16) : UInt16.ofInt (port.toNat : Int) = port := by
  have mod : (port.toNat : Int) % 2 ^ 16 = port.toNat := Int.emod_eq_of_lt (by omega) (by
    have lt := port.toNat_lt
    omega)
  rw [UInt16.ofInt, mod, Int.toNat_natCast, UInt16.ofNat_toNat]

/-- The socket is one for the proxy exactly when the proxy is covered. -/
lemma forProxy_createSocket_iff {parsers : Parsers} {p : ProxyUri} (read : parsers.Read p)
    {cmd : CommandLine} (passed : cmd.switchValue "proxy-server" = some p.text) :
    (createSocket parsers cmd).ForProxy p ↔ p.Covered := by
  rw [createSocket_eq read passed, read.port]
  cases address : p.host.address with
  | none => exact iff_of_false id (fun covered => covered.address address)
  | some a =>
    dsimp only
    split
    case isFalse scheme => exact iff_of_false id (fun covered => scheme covered.scheme)
    case isTrue scheme =>
      cases port : p.port with
      | none =>
        -- the socket has the port 65535
        refine iff_of_false ?_ (fun covered => covered.port port)
        rintro ⟨_, default⟩
        rw [port] at default
        have ne : UInt16.ofInt (-1) ≠ defaultPort := by decide
        exact ne default
      | some q =>
        refine iff_of_true ⟨address.symm, ?_⟩ ⟨scheme, by simp [address], by simp [port]⟩
        rw [port]
        exact ofInt_toNat q.value

/-- With a SOCKS5 proxy under the switch, or with the value that is passed for a workspace with the proxy, the socket is
one for this proxy exactly when the scheme is in lower case, the host is an IP address and a port is given. -/
theorem forProxy_iff {parsers : Parsers} {p : ProxyUri} (read : parsers.Read p) :
    (∀ cmd : CommandLine, cmd.switchValue "proxy-server" = some p.text →
      ((createSocket parsers cmd).ForProxy p ↔ p.Covered)) ∧
    (∀ cmd exePath ws userDataDir cdpPort, ws.proxy = p.text →
      cmd.switchValue "proxy-server" =
        (buildCommandLine exePath ws userDataDir cdpPort).switchValue "proxy-server" →
      ((createSocket parsers cmd).ForProxy p ↔ p.Covered)) := by
  constructor
  · intro cmd passed
    exact forProxy_createSocket_iff read passed
  · intro cmd exePath ws userDataDir cdpPort proxy same
    obtain ⟨_, _, passed, _⟩ := buildCommandLine_switchValue exePath ws userDataDir cdpPort
    rw [passed, proxy, if_pos p.text_ne] at same
    exact forProxy_createSocket_iff read same

/-- Parsers that know two proxies. -/
def knownProxies : Parsers where
  gurl url :=
    if url = "socks5://10.0.0.1:1080" then ⟨true, true, "10.0.0.1", 1080⟩
    else if url = "socks5://proxy.example:1080" then ⟨true, true, "proxy.example", 1080⟩
    else ⟨false, false, "", -1⟩
  fromString text := if text = "10.0.0.1" then some ⟨[10, 0, 0, 1]⟩ else none

def port1080 : ProxyPort where
  text := "1080"
  value := 1080
  digits := by decide
  nonempty := by decide
  reads := by decide

def numericProxy : ProxyUri where
  scheme := "socks5"
  host := .ipv4 "10.0.0.1" [10, 0, 0, 1] rfl
  port := some port1080
  socks5 := by decide
  ascii _ := by decide

def namedProxy : ProxyUri where
  scheme := "socks5"
  host := .name "proxy.example"
  port := some port1080
  socks5 := by decide
  ascii h := absurd rfl h

/-- The proxy of this workspace is numeric. -/
theorem forProxy_iff_numericProxy :
    (createSocket knownProxies
      (buildCommandLine "purecloak" { proxy := "socks5://10.0.0.1:1080" } "/tmp/w" 9333)).ForProxy
        numericProxy := by
  have read : knownProxies.Read numericProxy := ⟨by decide, by decide, by decide, by decide⟩
  have iff := (forProxy_iff read).2
    (buildCommandLine "purecloak" { proxy := "socks5://10.0.0.1:1080" } "/tmp/w" 9333) "purecloak"
    { proxy := "socks5://10.0.0.1:1080" } "/tmp/w" 9333 (by decide) rfl
  exact iff.mpr ⟨rfl, by simp [numericProxy, ProxyHost.address], by simp [numericProxy]⟩

/-- With a name as its host, the proxy is passed by. -/
theorem forProxy_fails :
    ¬ ∀ parsers p cmd, Parsers.Read parsers p → cmd.switchValue "proxy-server" = some p.text →
      (createSocket parsers cmd).ForProxy p := by
  intro h
  have read : knownProxies.Read namedProxy := ⟨by decide, by decide, by decide, by decide⟩
  exact h _ _ ⟨"purecloak", [("proxy-server", "socks5://proxy.example:1080")], []⟩ read (by decide)

end PureCloak.Net
