import Xrtc.Lib.Traced
import Xrtc.Pc.TransportState

/-!
# `Xrtc.Pc.DtlsTransport`: DTLS, and the SRTP keys it yields

The model of `rtcserver/src/pc/dtls_transport.cpp` and of the key exchange of
`dtls_srtp_transport.cpp`, as methods of the transport of a name. A `DtlsTransport`
raises `signal_dtls_state`, which the controller and then the `DtlsSrtpTransport` have
connected, and `signal_receiving_state`, which the controller has connected twice.
Nobody has connected `signal_writable_state` and `signal_closed`.

The adapter can raise events in `StartSSL` and while it is given a packet, and those are
handled before the call returns. The queue that holds the packets for the adapter is left
out, and so is what the adapter reads out of it.
-/

set_option autoImplicit false

namespace Xrtc.Pc

open Xrtc.Lib

/-! ### Packets -/

/-- `k_dtls_record_header_len`. -/
def dtlsRecordHeaderLen : Nat := 13

/-- `k_min_rtp_packet_len`. -/
def minRtpPacketLen : Nat := 12

/-- `is_dtls_packet`. -/
def isDtlsPacket (buf : Bytes) : Bool :=
  dtlsRecordHeaderLen ≤ buf.length && (buf.getD 0 0 > 19 && buf.getD 0 0 < 64)

/-- `is_dtls_client_hello_packet`. -/
def isDtlsClientHelloPacket (buf : Bytes) : Bool :=
  isDtlsPacket buf && (buf.length > 17 && (buf.getD 0 0 = 22 && buf.getD 13 0 = 1))

/-- `is_rtp_packet`. -/
def isRtpPacket (buf : Bytes) : Bool :=
  minRtpPacketLen ≤ buf.length && buf.getD 0 0 &&& 0xC0 = 0x80

/-- The loop of `_handle_dtls_packet` over the records of a packet. -/
def completeRecords (data : Bytes) : Bool :=
  if data.length = 0 then true
  else if data.length < dtlsRecordHeaderLen then false
  else
    let recordLen := (data.getD 11 0).toNat * 256 + (data.getD 12 0).toNat
    if recordLen + dtlsRecordHeaderLen > data.length then false
    else completeRecords (data.drop (dtlsRecordHeaderLen + recordLen))
termination_by data.length
decreasing_by
  rw [List.length_drop]
  have hpos : 0 < dtlsRecordHeaderLen := by decide
  omega

/-- The same loop with the bytes it reads: `tmpData` is the offset that the pointer has, and
`tmpSize` is what is left from there. -/
def completeRecordsTraced (data : Bytes) (tmpData tmpSize : Nat) : Traced Bool :=
  if tmpSize = 0 then return true
  else if tmpSize < dtlsRecordHeaderLen then return false
  else do
    let high ← Traced.getByte data (tmpData + 11)
    let low ← Traced.getByte data (tmpData + 12)
    let recordLen := high.toNat * 256 + low.toNat
    if recordLen + dtlsRecordHeaderLen > tmpSize then return false
    else
      completeRecordsTraced data (tmpData + (dtlsRecordHeaderLen + recordLen))
        (tmpSize - (dtlsRecordHeaderLen + recordLen))
termination_by tmpSize
decreasing_by
  have hpos : 0 < dtlsRecordHeaderLen := by decide
  omega

/-! ### The keys -/

/-- `rtc::GetSrtpKeyAndSaltLengths`. -/
def getSrtpKeyAndSaltLengths (cryptoSuite : Int) : Option (Nat × Nat) :=
  if cryptoSuite = 1 ∨ cryptoSuite = 2 then some (16, 14)
  else if cryptoSuite = 7 then some (16, 12)
  else if cryptoSuite = 8 then some (32, 12)
  else none

/-- `memcpy(&dst[i], &src[j], len)`. -/
def memcpy (dst : Bytes) (i : Nat) (src : Bytes) (j len : Nat) : Bytes :=
  dst.take i ++ (src.drop j).take len ++ dst.drop (i + len)

namespace DtlsTransport

variable (ssl : SslAdapter) (n : Nat)

/-- `get_srtp_crypto_suite`. -/
def getSrtpCryptoSuite (d : DtlsTransport) : Option Int :=
  if d.dtlsState ≠ .connected then none
  else
    match d.dtls with
    | none => none
    | some _ => ssl.getDtlsSrtpCryptoSuite n

/-- `export_keying_material`. -/
def exportKeyingMaterial (d : DtlsTransport) (len : Nat) : Option Bytes :=
  match d.dtls with
  | none => none
  | some session =>
      if ssl.exportKeyingMaterial n then some (ssl.material session len).toList else none

/-- `DtlsSrtpTransport::_extract_params`: the suite, the send key and the receive key. -/
def extractParams (d : DtlsTransport) : Option (Int × Bytes × Bytes) :=
  if !d.dtlsActive then none
  else
    match d.getSrtpCryptoSuite ssl n with
    | none => none
    | some cs =>
        match getSrtpKeyAndSaltLengths cs with
        | none => none
        | some (keyLen, saltLen) =>
            match d.exportKeyingMaterial ssl n (keyLen * 2 + saltLen * 2) with
            | none => none
            | some dtlsBuffer =>
                let clientWriteKey := List.replicate (keyLen + saltLen) 0
                let serverWriteKey := List.replicate (keyLen + saltLen) 0
                let offset := 0
                let clientWriteKey := memcpy clientWriteKey 0 dtlsBuffer offset keyLen
                let offset := offset + keyLen
                let serverWriteKey := memcpy serverWriteKey 0 dtlsBuffer offset keyLen
                let offset := offset + keyLen
                let clientWriteKey := memcpy clientWriteKey keyLen dtlsBuffer offset saltLen
                let offset := offset + saltLen
                let serverWriteKey := memcpy serverWriteKey keyLen dtlsBuffer offset saltLen
                some (cs, serverWriteKey, clientWriteKey)

end DtlsTransport

/-! ### `DtlsSrtpTransport` -/

namespace DtlsSrtpTransport

variable (ssl : SslAdapter)

/-- `_setup_dtls_srtp`. -/
def setupDtlsSrtp (c : TransportController) (name : Bytes) : TransportController :=
  let n := c.calls
  match (c.transports name).dtls.extractParams ssl n with
  | none => c.tick
  | some (cs, sendKey, recvKey) =>
      c.tick.modify name fun t =>
        { t with srtp := (t.srtp.setRtpParams ssl.srtp n cs sendKey cs recvKey).2 }

/-- `_maybe_setup_dtls_srtp`. -/
def maybeSetupDtlsSrtp (c : TransportController) (name : Bytes) : TransportController :=
  let t := c.transports name
  if t.srtp.isSrtpActive || !t.dtls.writable then c else setupDtlsSrtp ssl c name

/-- `_on_dtls_state`. -/
def onDtlsState (c : TransportController) (name : Bytes) (state : DtlsTransportState) :
    TransportController :=
  if state ≠ .connected then c.modify name fun t => { t with srtp := t.srtp.resetParams }
  else maybeSetupDtlsSrtp ssl c name

end DtlsSrtpTransport

/-! ### `DtlsTransport` -/

namespace DtlsTransport

variable (ssl : SslAdapter)

/-- `_set_dtls_state`. -/
def setDtlsState (c : TransportController) (name : Bytes) (state : DtlsTransportState) :
    TransportController :=
  if (c.transports name).dtls.dtlsState = state then c
  else
    let c := c.modifyDtls name fun d => { d with dtlsState := state }
    DtlsSrtpTransport.onDtlsState ssl c.updateState name state

/-- `_set_writable_state`. -/
def setWritableState (c : TransportController) (name : Bytes) (writable : Bool) :
    TransportController :=
  c.modifyDtls name fun d => { d with writable }

/-- `_set_receiving`. -/
def setReceiving (c : TransportController) (name : Bytes) (receiving : Bool) :
    TransportController :=
  if (c.transports name).dtls.receiving = receiving then c
  else (c.modifyDtls name fun d => { d with receiving }).updateState.updateState

/-- `_on_dtls_event`. -/
def onDtlsEvent (c : TransportController) (name : Bytes) (e : SslEvent) : TransportController :=
  let c :=
    if e.opened then setDtlsState ssl (setWritableState c name true) name .connected else c
  let c :=
    match e.read with
    | some .eos => (setDtlsState ssl (setWritableState c name false) name .closed).push (.closed name)
    | some .error =>
        (setDtlsState ssl (setWritableState c name false) name .failed).push (.closed name)
    | _ => c
  match e.closed with
  | none => c
  | some error =>
      setDtlsState ssl (setWritableState c name false) name (if error = 0 then .closed else .failed)

/-- The events of the adapter of a name, in their order. -/
def onDtlsEvents (c : TransportController) (name : Bytes) (es : List SslEvent) :
    TransportController :=
  es.foldl (fun c e => onDtlsEvent ssl c name e) c

/-- `StreamInterfaceChannel::on_received_packet`. The adapter has connected its signal. -/
def onReceivedPacket (c : TransportController) (name : Bytes) (data : Bytes) :
    TransportController :=
  let n := c.calls
  let c := (c.push (.receivedPacket name data)).tick
  if (c.transports name).dtls.dtls.isSome then onDtlsEvents ssl c name (ssl.onRead n) else c

/-- `_handle_dtls_packet`. -/
def handleDtlsPacket (c : TransportController) (name : Bytes) (data : Bytes) :
    Bool × TransportController :=
  let c := c.push (.handlePacket name data)
  if completeRecords data then (true, onReceivedPacket ssl c name data) else (false, c)

/-- `_maybe_start_dtls`. -/
def maybeStartDtls (c : TransportController) (name : Bytes) : TransportController :=
  let t := c.transports name
  if t.dtls.dtls.isSome && t.channel.writable then
    let (events, err) := ssl.startSSL c.calls
    let c := onDtlsEvents ssl (c.push (.startSSL name)).tick name events
    if err ≠ 0 then setDtlsState ssl c name .failed
    else
      let c := setDtlsState ssl c name .connecting
      let hello := (c.transports name).dtls.cachedClientHello
      if hello.length ≠ 0 then
        let (handled, c) := handleDtlsPacket ssl c name hello
        let c := if handled then c else setDtlsState ssl c name .failed
        c.modifyDtls name fun d => { d with cachedClientHello := [] }
      else c
  else c

/-- `_setup_dtls`. The local certificate is there whenever it is called. -/
def setupDtls (c : TransportController) (name : Bytes) : Bool × TransportController :=
  if !ssl.create c.calls then
    (false, c.tick.modifyDtls name fun d => { d with dtls := none })
  else
    let session := c.sessions
    let c : TransportController := { c.tick with sessions := session + 1 }
    let c := c.modifyDtls name fun d => { d with dtls := some session }
    let d := (c.transports name).dtls
    if d.remoteFingerprintValue.length ≠ 0 ∧ ssl.setPeerCertificateDigest c.calls ≠ .none then
      (false, c.tick)
    else
      let c := c.tick
      if !d.srtpCiphers.isEmpty && !ssl.setDtlsSrtpCryptoSuites c.calls then (false, c.tick)
      else (true, maybeStartDtls ssl c.tick name)

/-- `_on_read_packet`. -/
def onReadPacket (c : TransportController) (name : Bytes) (buf : Bytes) (ts : Int) :
    TransportController :=
  let d := (c.transports name).dtls
  match d.dtlsState with
  | .new =>
      if isDtlsClientHelloPacket buf then
        let c := c.modifyDtls name fun d => { d with cachedClientHello := buf }
        if d.dtls.isNone ∧ d.localCertificate.isSome then (setupDtls ssl c name).2 else c
      else c
  | .connecting | .connected =>
      if isDtlsPacket buf then (handleDtlsPacket ssl c name buf).2
      else if d.dtlsState ≠ .connected then c
      else if !isRtpPacket buf then c
      else c.push (.readPacket name buf ts)
  | _ => c

/-- `_on_writable_state`. -/
def onWritableState (c : TransportController) (name : Bytes) : TransportController :=
  let t := c.transports name
  if !t.dtls.dtlsActive then setWritableState c name t.channel.writable
  else
    match t.dtls.dtlsState with
    | .new => maybeStartDtls ssl c name
    | .connected => setWritableState c name t.channel.writable
    | _ => c

/-- `_on_receiving_state`. -/
def onReceivingState (c : TransportController) (name : Bytes) : TransportController :=
  setReceiving c name (c.transports name).channel.receiving

/-- `set_local_certificate`. -/
def setLocalCertificate (d : DtlsTransport) (cert : Option Certificate) : Bool × DtlsTransport :=
  if d.dtlsActive then (cert = d.localCertificate, d)
  else if cert.isSome then (true, { d with localCertificate := cert, dtlsActive := true })
  else (true, d)

/-- `set_remote_fingerprint`. -/
def setRemoteFingerprint (c : TransportController) (name : Bytes) (digestAlg digest : Bytes) :
    Bool × TransportController :=
  let d := (c.transports name).dtls
  if d.dtlsActive ∧ d.remoteFingerprintValue = digest ∧ digestAlg ≠ [] then (true, c)
  else if digestAlg = [] then
    (false, c.modifyDtls name fun d => { d with dtlsActive := false })
  else if !d.dtlsActive then (false, c)
  else
    let fingerprintChange := decide (d.remoteFingerprintValue.length > 0)
    let c := c.modifyDtls name fun d =>
      { d with remoteFingerprintValue := digest, remoteFingerprintAlg := digestAlg }
    if d.dtls.isSome && !fingerprintChange then
      let err := ssl.setPeerCertificateDigest c.calls
      if err ≠ .none then (err = .verificationFailed, setDtlsState ssl c.tick name .failed)
      else (true, c.tick)
    else
      let c :=
        if d.dtls.isSome && fingerprintChange then
          let c := c.modifyDtls name fun d => { d with dtls := none }
          setWritableState (setDtlsState ssl c name .new) name false
        else c
      let (done, c) := setupDtls ssl c name
      if !done then (false, setDtlsState ssl c name .failed) else (true, c)

end DtlsTransport

end Xrtc.Pc
