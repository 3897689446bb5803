import GoproGateway.Library.Tlv
import GoproGateway.State.GoproState

/-! Connecting the camera to the home network: the two requests, and the choice between them.

The protobuf library encodes the requests, and is a parameter. An entry of the list of access
points has its name in an array of forty bytes, and `strlen` reads on behind the array when
there is no NUL in it.
-/

namespace GoproGateway

/-- The requests with the strings that are handed to the encoder. -/
inductive ConnectRequest where
  /-- `RequestConnect`. -/
  | connect (ssid : List UInt8)
  /-- `RequestConnectNew`. -/
  | connectNew (ssid password : List UInt8)
  deriving DecidableEq, Repr

/-- `gopro_prepare_connect_saved`, up to the encoding. -/
def goproPrepareConnectSaved (strings : StateStrings) : ConnectRequest :=
  .connect (strings.text .cohnWifiSsid)

/-- `gopro_prepare_connect_new`, up to the encoding. -/
def goproPrepareConnectNew (strings : StateStrings) : ConnectRequest :=
  .connectNew (strings.text .cohnWifiSsid) (strings.text .cohnWifiPass)

/-- The requests in the wire format, for strings below 128 bytes. -/
def referenceEncode : ConnectRequest → List UInt8
  | .connect ssid => Tlv.encodeAll [⟨0x0A, ssid⟩]
  | .connectNew ssid password => Tlv.encodeAll [⟨0x0A, ssid⟩, ⟨0x12, password⟩]

def maxSsidLen : Nat := 40
def maxApListCount : Nat := 30

def scanFlagConfigured : Int32 := 0x02
def scanFlagAssociated : Int32 := 0x08

/-- `struct ap_list_t`. -/
structure ApListT where
  signalFrequencyMhz : Int32
  signalStrengthBars : Int32
  flags : Int32
  ssid : List UInt8
  ssid_length : ssid.length = maxSsidLen
  deriving DecidableEq, Repr

/-- An access point, and what stands behind the array of its name in memory. -/
structure ApEntry extends ApListT where
  behind : List UInt8
  deriving DecidableEq, Repr

/-- The name of an access point, as `strlen` and `strncmp` read it. -/
def ApEntry.name (entry : ApEntry) : List UInt8 := CString.text (entry.ssid ++ entry.behind)

/-- A call of `gopro_send_big_data`. -/
structure BigData where
  data : List UInt8
  type : Nat
  feature : UInt8
  action : UInt8
  deriving DecidableEq, Repr

section Connect

variable (encode : ConnectRequest → List UInt8) (strings : StateStrings)

/-- What is sent for the entry that has been found. -/
def connectFound (entry : ApEntry) : List BigData :=
  if entry.flags &&& scanFlagAssociated > 0 then []
  else if entry.flags &&& scanFlagConfigured > 0 then
    [⟨encode (goproPrepareConnectSaved strings), gpCntrlHandleNet, 0x02, 0x04⟩]
  else
    [⟨encode (goproPrepareConnectNew strings), gpCntrlHandleNet, 0x02, 0x05⟩]

/-- `gopro_connect_ap`: the search over the list. -/
def goproConnectAp : List ApEntry → List BigData
  | [] => []
  | entry :: rest =>
      let configured := strings.bytes.drop StringField.cohnWifiSsid.offset
      let minLen :=
        if (CString.text configured).length > entry.name.length then entry.name.length
        else (CString.text configured).length
      if minLen = 0 then goproConnectAp rest
      else if CString.strncmp (entry.ssid ++ entry.behind) configured minLen = 0 then
        connectFound encode strings entry
      else goproConnectAp rest

end Connect

end GoproGateway
