import Mathlib.Tactic.Lemma

/-!
# Addresses, buffers and errors

What the sockets use of `net/base`.
-/

namespace PureCloak.Net

/-- A result: an error, or a number of bytes, or `OK`. -/
abbrev OK : Int := 0
abbrev ERR_IO_PENDING : Int := -1
abbrev ERR_SOCKET_NOT_CONNECTED : Int := -15
abbrev ERR_CONNECTION_CLOSED : Int := -100
abbrev ERR_SOCKS_CONNECTION_FAILED : Int := -120
abbrev ERR_PROXY_CONNECTION_FAILED : Int := -130

/-- `IPAddress`: four bytes or sixteen. -/
structure IPAddress where
  bytes : List UInt8 := []
deriving DecidableEq

/-- `IPEndPoint`. -/
structure IPEndPoint where
  address : IPAddress := {}
  port : UInt16 := 0
deriving DecidableEq

/-- `IPAddress::IsIPv4`. -/
def IPAddress.isIPv4 (a : IPAddress) : Bool :=
  a.bytes.length = 4

/-- `base::U16FromBigEndian`. -/
def u16FromBigEndian (hi lo : UInt8) : UInt16 :=
  hi.toUInt16 <<< 8 ||| lo.toUInt16

/-- `DrainableIOBuffer`: a buffer and how much of it was consumed. -/
structure DrainableIOBuffer where
  data : List UInt8
  used : Nat := 0
deriving DecidableEq

/-- What is left in the buffer. -/
def DrainableIOBuffer.remaining (b : DrainableIOBuffer) : List UInt8 :=
  b.data.drop b.used

def DrainableIOBuffer.didConsume (b : DrainableIOBuffer) (bytes : Nat) : DrainableIOBuffer :=
  { b with used := b.used + bytes }

@[simp] lemma DrainableIOBuffer.didConsume_remaining (b : DrainableIOBuffer) (n : Nat) :
    (b.didConsume n).remaining = b.remaining.drop n := by
  rw [remaining, remaining, List.drop_drop]
  rfl

/-- `GrowableIOBuffer`: `data` is what was written into it so far. -/
structure GrowableIOBuffer where
  capacity : Nat
  offset : Nat := 0
  data : List UInt8 := []
deriving DecidableEq

def GrowableIOBuffer.remainingCapacity (b : GrowableIOBuffer) : Nat :=
  b.capacity - b.offset

def GrowableIOBuffer.spanBeforeOffset (b : GrowableIOBuffer) : List UInt8 :=
  b.data.take b.offset

/-- Bytes are read into the buffer at its offset. -/
def GrowableIOBuffer.put (b : GrowableIOBuffer) (bytes : List UInt8) : GrowableIOBuffer :=
  { b with data := b.data.take b.offset ++ bytes }

/-- The offset is set behind some more bytes. -/
def GrowableIOBuffer.advance (b : GrowableIOBuffer) (n : Nat) : GrowableIOBuffer :=
  { b with offset := b.offset + n }

end PureCloak.Net
