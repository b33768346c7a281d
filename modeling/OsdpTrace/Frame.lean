import OsdpTrace.Text.Hex
import OsdpTrace.Json.Value

/-!
Frames on an OSDP bus. A captured frame is a run of bytes seen from the control panel
(outbound) or from a reader (inbound). A decoded frame carries the header fields, the payload,
whether it travelled on a secure channel, and optionally raw bytes. A reply's address has its
top bit set; address 0x7F is the broadcast address.
-/
namespace OsdpTrace

def pollCode : Nat := 0x60

def ackCode : Nat := 0x40

def nakCode : Nat := 0x41

def broadcastAddress : Nat := 0x7F

inductive Direction where
  | outbound
  | inbound
deriving DecidableEq, Repr, Inhabited

namespace Direction

def name : Direction → String
  | .outbound => "outbound"
  | .inbound => "inbound"

def title : Direction → String
  | .outbound => "Outbound"
  | .inbound => "Inbound"

def label : Direction → String
  | .outbound => "TX"
  | .inbound => "RX"

def isOutbound (d : Direction) : Bool := d == .outbound

def isInbound (d : Direction) : Bool := d == .inbound

def ofName? : String → Option Direction
  | "outbound" => some .outbound
  | "inbound" => some .inbound
  | _ => none

end Direction

/-- Whether a frame was protected, and by which key. -/
inductive Security where
  | clearText
  | secureDefaultKey
  | secureCustomKey
deriving DecidableEq, Repr, Inhabited

namespace Security

/-- The class of a frame from its secure-channel flags. -/
def ofFlags (isSecure usesDefaultKey : Bool) : Security :=
  if !isSecure then .clearText else if usesDefaultKey then .secureDefaultKey else .secureCustomKey

def isSecure (s : Security) : Bool := s != .clearText

def name : Security → String
  | .clearText => "clear_text"
  | .secureDefaultKey => "secure_default_key"
  | .secureCustomKey => "secure_custom_key"

def title : Security → String
  | .clearText => "clear-text"
  | .secureDefaultKey => "secure (default key)"
  | .secureCustomKey => "secure (custom key)"

end Security

/-- Where a frame was captured: sent by the control panel, or by a reader. -/
inductive Source where
  | panel
  | reader
deriving DecidableEq, Repr, Inhabited

def Source.direction : Source → Direction
  | .panel => .outbound
  | .reader => .inbound

/-- A decoded frame. -/
structure Frame where
  address : Nat
  sequence : Nat
  code : Nat
  name : String
  payload : List UInt8
  isSecure : Bool
  usesDefaultKey : Bool
  raw : Option (List UInt8)
deriving DecidableEq, Repr, Inhabited

namespace Frame

def make (address sequence code : Nat) (name : String) : Frame :=
  ⟨address, sequence, code, name, [], false, false, none⟩

def secured (f : Frame) (usesDefaultKey : Bool) : Frame :=
  { f with isSecure := true, usesDefaultKey := usesDefaultKey }

def readerAddress (f : Frame) : Nat := f.address % 128

def isBroadcast (f : Frame) : Bool := f.readerAddress == broadcastAddress

def isPoll (f : Frame) : Bool := f.code == pollCode

def isAck (f : Frame) : Bool := f.code == ackCode

def isNak (f : Frame) : Bool := f.code == nakCode

/-- The frame as a JSON object; bytes are hexadecimal text. -/
def toJson (f : Frame) : Json.Value :=
  .obj [("address", .int f.address), ("sequence", .int f.sequence), ("code", .int f.code),
    ("name", .str f.name), ("payload", .str (Text.hexOfBytes f.payload)),
    ("is_secure", .bool f.isSecure), ("uses_default_key", .bool f.usesDefaultKey),
    ("raw", Json.Value.ofOption (fun r => .str (Text.hexOfBytes r)) f.raw)]

def codeName (code : Nat) : String :=
  match code with
  | 0x60 => "osdp_POLL"
  | 0x61 => "osdp_ID"
  | 0x40 => "osdp_ACK"
  | 0x41 => "osdp_NAK"
  | 0x45 => "osdp_PDID"
  | _ => "osdp_UNKNOWN"

/-- Decodes bytes laid out as address, flags, sequence, code and payload. Flag 0x08 refuses the
frame; flag 0x01 marks a secure channel, whose key is the default one under flag 0x02; flag
0x04 keeps the payload as raw bytes. Fewer than four bytes do not decode. -/
def decodeFlagged : List UInt8 → Option Frame
  | address :: flags :: sequence :: code :: payload =>
    let flags := flags.toNat
    if flags / 8 % 2 = 1 then none
    else
      let f := { make address.toNat sequence.toNat code.toNat (codeName code.toNat) with
        payload := payload }
      let f := if flags % 2 = 1 then f.secured (flags / 2 % 2 = 1) else f
      some (if flags / 4 % 2 = 1 then { f with raw := some payload } else f)
  | _ => none

end Frame

end OsdpTrace
