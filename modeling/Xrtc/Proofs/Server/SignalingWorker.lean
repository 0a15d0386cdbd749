import Xrtc.Server.SignalingWorker

/-!
# `Xrtc.Proofs.Server.SignalingWorker`: how often a connection dispatches a request

The worker treats the protocol as a short connection. After the request it leaves
the state machine in `STATE_BODY` with `bytes_processed = 65535`, so the loop of
`_process_query_buffer` runs again as soon as the buffer holds `65535 + body_len`
bytes. It then dispatches the same slices a second time, and since the sentinel
does not grow it does not stop there.

`servesOnce_iff` says exactly when this does not happen: the connection answers
every read and dispatches at most one request if and only if fewer than
`65535 + body_len` bytes arrive or the one request is rejected. The proof follows
the buffer. `Waiting` describes the connection after a given part of the stream,
`waiting_readQuery` and `readQuery_dispatches_twice` are the two outcomes of one
read, and the run lemmas `serve_of_short` and `serve_of_long` are inductions on
the reads. Four iterations of the loop are enough for every read that ends.
-/

set_option autoImplicit false

namespace Xrtc.Proofs.Server

open Xrtc.Lib
open Xrtc.Server
open Xrtc.Server.TcpConnection

/-- The parser ends on every read of the connection, and `_process_request` is
called at most once. -/
def ServesOnce (processRequest : Nat → Request → Int) (events : List (Nat × ReadResult)) : Prop :=
  ∃ fuel c, serve processRequest fuel {} events = some c ∧ c.requests.length ≤ 1

/-! ### The header does not move -/

/-- Two buffers with the same first 36 bytes announce the same body length. -/
theorem bodyLen_append {buf : Bytes} (h : xheadSize ≤ buf.length) (rest : Bytes) :
    bodyLen (buf ++ rest) = bodyLen buf := by
  unfold bodyLen
  rw [List.take_append_of_le_length h]

/-- The magic number is within the header. -/
theorem magicNum_append {buf : Bytes} (h : xheadSize ≤ buf.length) (rest : Bytes) :
    magicNum (buf ++ rest) = magicNum buf := by
  unfold magicNum
  rw [List.take_append_of_le_length h]

/-- Once the body has arrived, more bytes do not change the request. -/
theorem request_append {buf : Bytes} (h : xheadSize + bodyLen buf ≤ buf.length) (rest : Bytes) :
    request (buf ++ rest) = request buf := by
  have hhead : xheadSize ≤ buf.length := by omega
  unfold request
  rw [bodyLen_append hhead, List.take_append_of_le_length hhead,
    List.drop_append_of_le_length hhead,
    List.take_append_of_le_length (by rw [List.length_drop]; omega)]

/-! ### The loop -/

section
variable (processRequest : Nat → Request → Int)

/-- The loop only appends to the list of dispatched requests. -/
theorem requests_prefix_processQueryBuffer :
    ∀ (fuel : Nat) (c : TcpConnection) (r : Int × TcpConnection),
      processQueryBuffer processRequest fuel c = some r → c.requests <+: r.2.requests := by
  intro fuel
  induction fuel with
  | zero => intro c r h; simp [processQueryBuffer] at h
  | succ fuel ih =>
      intro c r h
      rw [processQueryBuffer] at h
      split at h
      · split at h
        · split at h
          · cases h
            exact List.prefix_rfl
          · have hpre := ih _ _ h
            exact hpre
        · dsimp only at h
          split at h
          · cases h
            exact List.prefix_append _ _
          · have hpre := ih _ _ h
            exact (List.prefix_append _ _).trans hpre
      · cases h
        exact List.prefix_rfl

/-- A body state whose body has arrived dispatches it. -/
theorem lt_requests_of_body {fuel : Nat} {c : TcpConnection} {r : Int × TcpConnection}
    (hstate : c.currentState = .body)
    (hlen : c.bytesProcessed + c.bytesExpected ≤ c.querybuf.length)
    (h : processQueryBuffer processRequest fuel c = some r) :
    c.requests.length < r.2.requests.length := by
  cases fuel with
  | zero => simp [processQueryBuffer] at h
  | succ fuel =>
      rw [processQueryBuffer, if_pos hlen, hstate] at h
      dsimp only at h
      split at h
      · cases h
        simp
      · have hpre := requests_prefix_processQueryBuffer processRequest _ _ _ h
        have := hpre.length_le
        simp only [List.length_append, List.length_cons, List.length_nil] at this
        omega

/-- More iterations do not change the result of a loop that has ended. -/
theorem processQueryBuffer_mono :
    ∀ (fuel : Nat) (c : TcpConnection) (r : Int × TcpConnection) (more : Nat),
      processQueryBuffer processRequest fuel c = some r →
      processQueryBuffer processRequest (fuel + more) c = some r := by
  intro fuel
  induction fuel with
  | zero => intro c r more h; simp [processQueryBuffer] at h
  | succ fuel ih =>
      intro c r more h
      rw [Nat.add_right_comm, processQueryBuffer]
      rw [processQueryBuffer] at h
      -- the branches do not depend on the fuel: each ends at once or goes on with one less
      split at h
      · rename_i hlen
        rw [if_pos hlen]
        split at h
        · split at h
          · rename_i hmagic
            rw [if_pos hmagic]
            exact h
          · rename_i hmagic
            rw [if_neg hmagic]
            exact ih _ r more h
        · dsimp only at h ⊢
          split at h
          · rename_i hret
            rw [if_pos hret]
            exact h
          · rename_i hret
            rw [if_neg hret]
            exact ih _ r more h
      · rename_i hlen
        rw [if_neg hlen]
        exact h

/-- The result of the loop does not depend on the number of iterations allowed. -/
theorem processQueryBuffer_unique {fuel fuel' : Nat} {c : TcpConnection}
    {r r' : Int × TcpConnection} (h : processQueryBuffer processRequest fuel c = some r)
    (h' : processQueryBuffer processRequest fuel' c = some r') : r = r' := by
  have h₁ := processQueryBuffer_mono processRequest fuel c r fuel' h
  have h₂ := processQueryBuffer_mono processRequest fuel' c r' fuel h'
  rw [Nat.add_comm, h₂] at h₁
  exact (Option.some.inj h₁).symm

/-- A state whose awaited bytes have not arrived returns at once. -/
theorem processQueryBuffer_of_short {fuel : Nat} {c : TcpConnection}
    (hlen : c.querybuf.length < c.bytesProcessed + c.bytesExpected) :
    processQueryBuffer processRequest (fuel + 1) c = some (0, c) := by
  rw [processQueryBuffer, if_neg (by omega)]

/-- The connection while it waits for more of the stream: for the header, for the
body, or, after an accepted request, for nothing the protocol has. -/
inductive Waiting : TcpConnection → Prop where
  | head {c : TcpConnection} (hlen : c.querybuf.length < xheadSize)
      (hstate : c.currentState = .head) (hproc : c.bytesProcessed = 0)
      (hexp : c.bytesExpected = xheadSize) (hreq : c.requests = []) : Waiting c
  | body {c : TcpConnection} (hhead : xheadSize ≤ c.querybuf.length)
      (hlen : c.querybuf.length < xheadSize + bodyLen c.querybuf)
      (hstate : c.currentState = .body) (hproc : c.bytesProcessed = xheadSize)
      (hexp : c.bytesExpected = bodyLen c.querybuf) (hreq : c.requests = []) : Waiting c
  | served {c : TcpConnection} (hlen : xheadSize + bodyLen c.querybuf ≤ c.querybuf.length)
      (hshort : c.querybuf.length < 65535 + bodyLen c.querybuf)
      (hstate : c.currentState = .body) (hproc : c.bytesProcessed = 65535)
      (hexp : c.bytesExpected = bodyLen c.querybuf) (hreq : c.requests = [request c.querybuf])
      (hret : processRequest 0 (request c.querybuf) = 0) : Waiting c

/-- What a call of `_process_query_buffer` leads to: the connection waits again,
or the one request has arrived and was rejected. -/
def Settled (r : Int × TcpConnection) : Prop :=
  (r.1 = 0 ∧ Waiting processRequest r.2) ∨
  (r.1 ≠ 0 ∧ r.2.requests = [request r.2.querybuf] ∧
    xheadSize + bodyLen r.2.querybuf ≤ r.2.querybuf.length ∧
    processRequest 0 (request r.2.querybuf) ≠ 0)

/-- The end of the loop once the request has been dispatched. -/
theorem settled_of_served {fuel : Nat} {c : TcpConnection}
    (hlen : xheadSize + bodyLen c.querybuf ≤ c.querybuf.length)
    (hshort : c.querybuf.length < 65535 + bodyLen c.querybuf)
    (hstate : c.currentState = .body) (hproc : c.bytesProcessed = 65535)
    (hexp : c.bytesExpected = bodyLen c.querybuf) (hreq : c.requests = [request c.querybuf])
    (hret : processRequest 0 (request c.querybuf) = 0) :
    ∃ r, processQueryBuffer processRequest (fuel + 1) c = some r ∧
      Settled processRequest r ∧ r.2.querybuf = c.querybuf ∧ r.2.closed = c.closed := by
  refine ⟨(0, c), processQueryBuffer_of_short processRequest (by omega), Or.inl ⟨rfl, ?_⟩, rfl, rfl⟩
  exact .served hlen hshort hstate hproc hexp hreq hret

/-- The loop from the body state: it waits for the body, or dispatches it once. -/
theorem settled_of_body {fuel : Nat} {c : TcpConnection}
    (hhead : xheadSize ≤ c.querybuf.length) (hstate : c.currentState = .body)
    (hproc : c.bytesProcessed = xheadSize) (hexp : c.bytesExpected = bodyLen c.querybuf)
    (hreq : c.requests = [])
    (hgood : c.querybuf.length < 65535 + bodyLen c.querybuf ∨
      (xheadSize + bodyLen c.querybuf ≤ c.querybuf.length →
        processRequest 0 (request c.querybuf) ≠ 0)) :
    ∃ r, processQueryBuffer processRequest (fuel + 2) c = some r ∧
      Settled processRequest r ∧ r.2.querybuf = c.querybuf ∧ r.2.closed = c.closed := by
  by_cases hlen : xheadSize + bodyLen c.querybuf ≤ c.querybuf.length
  · rw [processQueryBuffer, if_pos (by omega), hstate]
    dsimp only
    rw [hreq]
    by_cases hret : processRequest 0 (request c.querybuf) = 0
    · rw [if_neg (by simpa using hret)]
      have hshort := hgood.resolve_right fun h => h hlen hret
      exact settled_of_served processRequest hlen hshort rfl rfl hexp rfl hret
    · rw [if_pos (by simpa using hret)]
      exact ⟨_, rfl, Or.inr ⟨by simp, rfl, hlen, hret⟩, rfl, rfl⟩
  · have hlen' : c.querybuf.length < xheadSize + bodyLen c.querybuf := by omega
    exact ⟨(0, c), processQueryBuffer_of_short processRequest (by omega),
      Or.inl ⟨rfl, .body hhead hlen' hstate hproc hexp hreq⟩, rfl, rfl⟩

/-- One call of `_process_query_buffer` after more bytes have been appended to a
waiting connection. The stream is short, or its request is rejected. Four
iterations suffice. -/
theorem processQueryBuffer_settled {c : TcpConnection} (h : Waiting processRequest c)
    (bytes : Bytes)
    (hmagic : xheadSize ≤ (c.querybuf ++ bytes).length →
      magicNum (c.querybuf ++ bytes) = xheadMagicNum)
    (hgood : xheadSize ≤ (c.querybuf ++ bytes).length →
      (c.querybuf ++ bytes).length < 65535 + bodyLen (c.querybuf ++ bytes) ∨
      (xheadSize + bodyLen (c.querybuf ++ bytes) ≤ (c.querybuf ++ bytes).length →
        processRequest 0 (request (c.querybuf ++ bytes)) ≠ 0)) :
    ∃ r, processQueryBuffer processRequest 4 { c with querybuf := c.querybuf ++ bytes } = some r ∧
      Settled processRequest r ∧ r.2.querybuf = c.querybuf ++ bytes ∧ r.2.closed = c.closed := by
  cases h with
  | head hlen hstate hproc hexp hreq =>
      -- waiting for a head, which is complete now or still too short
      by_cases hhead : xheadSize ≤ (c.querybuf ++ bytes).length
      · rw [processQueryBuffer, if_pos (by simp only; omega)]
        simp only [hstate]
        rw [if_neg (by simpa using hmagic hhead)]
        exact settled_of_body processRequest hhead rfl rfl rfl hreq (hgood hhead)
      · refine ⟨(0, { c with querybuf := c.querybuf ++ bytes }),
          processQueryBuffer_of_short processRequest (by simp only; omega), Or.inl ⟨rfl, ?_⟩, rfl, rfl⟩
        exact .head (by simp only; omega) hstate hproc hexp hreq
  | body hhead hlen hstate hproc hexp hreq =>
      have hhead' : xheadSize ≤ (c.querybuf ++ bytes).length := by
        rw [List.length_append]; omega
      exact settled_of_body processRequest hhead' hstate hproc
        (hexp.trans (bodyLen_append hhead bytes).symm) hreq (hgood hhead')
  | served hlen hshort hstate hproc hexp hreq hret =>
      have hhead : xheadSize ≤ c.querybuf.length := by omega
      have hhead' : xheadSize ≤ (c.querybuf ++ bytes).length := by
        rw [List.length_append]; omega
      -- a request was served, and what it was made of is still in front
      have hbody := bodyLen_append hhead bytes
      have hlen' : xheadSize + bodyLen (c.querybuf ++ bytes) ≤ (c.querybuf ++ bytes).length := by
        rw [hbody, List.length_append]; omega
      have hrequest := request_append hlen bytes
      refine settled_of_served processRequest hlen' ?_ hstate hproc (hexp.trans hbody.symm)
        (by rw [hrequest]; exact hreq) (by rw [hrequest]; exact hret)
      exact (hgood hhead').resolve_right fun hno => hno hlen' (by rw [hrequest]; exact hret)

/-- A waiting connection that has received `65535 + body_len` bytes of an accepted
request dispatches at least twice, if the loop ends at all. -/
theorem two_le_requests_of_long {fuel : Nat} {c : TcpConnection} (h : Waiting processRequest c)
    (bytes : Bytes) {r : Int × TcpConnection}
    (hmagic : magicNum (c.querybuf ++ bytes) = xheadMagicNum)
    (hlong : 65535 + bodyLen (c.querybuf ++ bytes) ≤ (c.querybuf ++ bytes).length)
    (hret : processRequest 0 (request (c.querybuf ++ bytes)) = 0)
    (hr : processQueryBuffer processRequest fuel { c with querybuf := c.querybuf ++ bytes }
      = some r) :
    2 ≤ r.2.requests.length := by
  have hsize : xheadSize = 36 := rfl
  -- From the body state with no request yet, the first dispatch leaves the
  -- sentinel behind and the second follows in the same call.
  have hbody : ∀ (fuel : Nat) (c' : TcpConnection), c'.querybuf = c.querybuf ++ bytes →
      c'.currentState = .body → c'.bytesProcessed = xheadSize →
      c'.bytesExpected = bodyLen c'.querybuf → c'.requests = [] →
      processQueryBuffer processRequest fuel c' = some r → 2 ≤ r.2.requests.length := by
    intro fuel c' hbuf hstate hproc hexp hreq hrun
    cases fuel with
    | zero => simp [processQueryBuffer] at hrun
    | succ fuel =>
        rw [processQueryBuffer, if_pos (by rw [hproc, hexp, hbuf]; omega), hstate] at hrun
        dsimp only at hrun
        rw [hreq, hbuf, if_neg (by simpa using hret)] at hrun
        have hlt := lt_requests_of_body processRequest rfl
          (by simp only; rw [hexp, hbuf]; omega) hrun
        simp only [List.nil_append, List.length_cons, List.length_nil] at hlt
        omega
  cases h with
  | head hlen hstate hproc hexp hreq =>
      cases fuel with
      | zero => simp [processQueryBuffer] at hr
      | succ fuel =>
          rw [processQueryBuffer, if_pos (by simp only; omega)] at hr
          simp only [hstate] at hr
          rw [if_neg (by simpa using hmagic)] at hr
          have hbody' := hbody fuel
            { c with
                querybuf := c.querybuf ++ bytes
                currentState := .body
                bytesProcessed := xheadSize
                bytesExpected := bodyLen (c.querybuf ++ bytes) } rfl rfl rfl rfl hreq
          exact hbody' hr
  | body hhead hlen hstate hproc hexp hreq =>
      have hbody' := hbody fuel { c with querybuf := c.querybuf ++ bytes } rfl hstate hproc
        (hexp.trans (bodyLen_append hhead bytes).symm) hreq
      exact hbody' hr
  | served hlen hshort hstate hproc hexp hreq hret' =>
      have hlt := lt_requests_of_body processRequest (by exact hstate)
        (by simp only; rw [hproc, hexp, ← bodyLen_append (by omega) bytes]; exact hlong) hr
      simp only [hreq, List.length_cons, List.length_nil] at hlt
      omega

/-! ### The life of a connection -/

/-- A new connection waits for its first header. -/
theorem waiting_init : Waiting processRequest ({} : TcpConnection) :=
  .head (by simp [xheadSize]) rfl rfl rfl rfl

/-- At most one request is served. -/
theorem Waiting.requests_le {c : TcpConnection} (h : Waiting processRequest c) :
    c.requests.length ≤ 1 := by
  cases h with
  | head hlen hstate hproc hexp hreq => simp [hreq]
  | body hhead hlen hstate hproc hexp hreq => simp [hreq]
  | served hlen hshort hstate hproc hexp hreq hret => simp [hreq]

/-- A closed connection is served no more. -/
theorem serve_closed {fuel : Nat} {c : TcpConnection} (h : c.closed = true)
    (events : List (Nat × ReadResult)) : serve processRequest fuel c events = some c := by
  cases events with
  | nil => rfl
  | cons e events =>
      obtain ⟨now, nread⟩ := e
      rw [serve, if_pos h]

/-- The clock is not read by the receiving side. -/
theorem Waiting.withClock {c : TcpConnection} (h : Waiting processRequest c) (now : Nat) :
    Waiting processRequest { c with lastInteraction := now } := by
  cases h with
  | head hlen hstate hproc hexp hreq => exact .head hlen hstate hproc hexp hreq
  | body hhead hlen hstate hproc hexp hreq => exact .body hhead hlen hstate hproc hexp hreq
  | served hlen hshort hstate hproc hexp hreq hret =>
      exact .served hlen hshort hstate hproc hexp hreq hret

/-- The stream facts at a prefix of the stream: what holds of the whole holds of
the part that has arrived, as far as the part shows it. -/
theorem good_of_append {buf rest : Bytes} (hhead : xheadSize ≤ buf.length)
    (hgood : (buf ++ rest).length < 65535 + bodyLen (buf ++ rest) ∨
      processRequest 0 (request (buf ++ rest)) ≠ 0) :
    buf.length < 65535 + bodyLen buf ∨
      (xheadSize + bodyLen buf ≤ buf.length → processRequest 0 (request buf) ≠ 0) := by
  rcases hgood with hshort | hret
  · left
    rw [bodyLen_append hhead, List.length_append] at hshort
    omega
  · right
    intro hlen
    rwa [request_append hlen] at hret

/-- A stream that is short, or whose request is rejected, is served with at most
one dispatch. Induction on the reads. -/
theorem serve_of_short :
    ∀ (events : List (Nat × ReadResult)) (c : TcpConnection), Waiting processRequest c →
      xheadSize ≤ (c.querybuf ++ received events).length →
      magicNum (c.querybuf ++ received events) = xheadMagicNum →
      ((c.querybuf ++ received events).length
          < 65535 + bodyLen (c.querybuf ++ received events) ∨
        processRequest 0 (request (c.querybuf ++ received events)) ≠ 0) →
      ∃ c', serve processRequest 4 c events = some c' ∧ c'.requests.length ≤ 1 := by
  intro events
  -- on the reads; the hypotheses are about all that will have come, so they stay as they are
  induction events with
  | nil => intro c h _ _ _; exact ⟨c, rfl, h.requests_le processRequest⟩
  | cons e events ih =>
      intro c h hhead hmagic hgood
      obtain ⟨now, nread⟩ := e
      cases hclosed : c.closed with
      | true =>
          exact ⟨c, serve_closed processRequest hclosed _, h.requests_le processRequest⟩
      | false =>
          rw [serve, if_neg (by simp [hclosed])]
          cases nread with
          | failed =>
              refine ⟨{ c with lastInteraction := now, closed := true }, ?_, h.requests_le _⟩
              rw [readQuery, Option.bind_some]
              exact serve_closed processRequest rfl events
          | data bytes =>
              simp only [received, ← List.append_assoc] at hhead hmagic hgood
              obtain ⟨r, hr, hset, hbuf, -⟩ := processQueryBuffer_settled processRequest
                (h.withClock processRequest now) bytes
                (fun hb => by rwa [magicNum_append hb] at hmagic)
                (fun hb => good_of_append processRequest hb hgood)
              simp only at hr hbuf
              rw [readQuery]
              simp only [hr, Option.map_some, Option.bind_some]
              rcases hset with ⟨hret, hwait⟩ | ⟨hret, hreq, -, -⟩
              · -- nothing is wrong, so the connection waits for more
                rw [if_neg (by simpa using hret)]
                refine ih r.2 hwait ?_ ?_ ?_
                · rwa [hbuf]
                · rwa [hbuf]
                · rwa [hbuf]
              · -- the connection is closed, after one request at most
                rw [if_pos hret]
                exact ⟨_, serve_closed processRequest rfl events, by simp [hreq]⟩

/-- `serve` only appends to the list of dispatched requests, by induction on the reads. -/
theorem requests_length_serve {fuel : Nat} :
    ∀ (events : List (Nat × ReadResult)) (c c' : TcpConnection),
      serve processRequest fuel c events = some c' → c.requests.length ≤ c'.requests.length := by
  intro events
  induction events with
  | nil => intro c c' h; cases h; exact Nat.le_refl _
  | cons e events ih =>
      intro c c' h
      obtain ⟨now, nread⟩ := e
      rw [serve] at h
      split at h
      · cases h
        exact Nat.le_refl _
      · obtain ⟨c₁, hread, hserve⟩ := Option.bind_eq_some_iff.mp h
        refine Nat.le_trans ?_ (ih c₁ c' hserve)
        cases nread with
        | failed =>
            simp only [readQuery, Option.some.injEq] at hread
            rw [← hread]
        | data bytes =>
            simp only [readQuery, Option.map_eq_some_iff] at hread
            obtain ⟨r, hr, hc₁⟩ := hread
            have hpre := requests_prefix_processQueryBuffer processRequest _ _ _ hr
            rw [← hc₁]
            split <;> exact hpre.length_le

/-- What a waiting connection has received is short of a second dispatch. -/
theorem Waiting.length_lt {c : TcpConnection} (h : Waiting processRequest c) :
    c.querybuf.length < 65535 + bodyLen c.querybuf := by
  have hsize : xheadSize = 36 := rfl
  cases h with
  | head hlen hstate hproc hexp hreq => omega
  | body hhead hlen hstate hproc hexp hreq => omega
  | served hlen hshort hstate hproc hexp hreq hret => exact hshort

/-- A long stream with an accepted request is dispatched twice, or a read never
ends. Induction on the reads. -/
theorem serve_of_long {fuel : Nat} :
    ∀ (events : List (Nat × ReadResult)) (c c' : TcpConnection), Waiting processRequest c →
      c.closed = false →
      magicNum (c.querybuf ++ received events) = xheadMagicNum →
      65535 + bodyLen (c.querybuf ++ received events) ≤ (c.querybuf ++ received events).length →
      processRequest 0 (request (c.querybuf ++ received events)) = 0 →
      serve processRequest fuel c events = some c' → 2 ≤ c'.requests.length := by
  intro events
  induction events with
  | nil =>
      intro c c' h _ hmagic hlong hret _
      simp only [received, List.append_nil] at hlong
      exact absurd (h.length_lt processRequest) (Nat.not_lt.mpr hlong)
  | cons e events ih =>
      intro c c' h hclosed hmagic hlong hret hserve
      obtain ⟨now, nread⟩ := e
      rw [serve, if_neg (by simp [hclosed])] at hserve
      cases nread with
      | failed =>
          simp only [received, List.append_nil] at hlong
          exact absurd (h.length_lt processRequest) (Nat.not_lt.mpr hlong)
      | data bytes =>
          simp only [received, ← List.append_assoc] at hmagic hlong hret
          obtain ⟨c₁, hread, hrest⟩ := Option.bind_eq_some_iff.mp hserve
          have hlast := requests_length_serve processRequest events c₁ c' hrest
          simp only [readQuery, Option.map_eq_some_iff] at hread
          obtain ⟨r, hr, hc₁⟩ := hread
          -- Either the part that has arrived is long already, or the connection
          -- waits and the rest of the reads decides.
          by_cases hpart : xheadSize ≤ (c.querybuf ++ bytes).length ∧
              65535 + bodyLen (c.querybuf ++ bytes) ≤ (c.querybuf ++ bytes).length
          · have hsize : xheadSize = 36 := rfl
            have hwhole : xheadSize + bodyLen (c.querybuf ++ bytes)
                ≤ (c.querybuf ++ bytes).length := by omega
            rw [magicNum_append hpart.1] at hmagic
            rw [request_append hwhole] at hret
            have htwo := two_le_requests_of_long processRequest (h.withClock processRequest now)
              bytes hmagic hpart.2 hret hr
            have hreq : c₁.requests = r.2.requests := by
              rw [← hc₁]
              split <;> rfl
            rw [hreq] at hlast
            omega
          · have hgood : xheadSize ≤ (c.querybuf ++ bytes).length →
                (c.querybuf ++ bytes).length < 65535 + bodyLen (c.querybuf ++ bytes) ∨
                (xheadSize + bodyLen (c.querybuf ++ bytes) ≤ (c.querybuf ++ bytes).length →
                  processRequest 0 (request (c.querybuf ++ bytes)) ≠ 0) := by
              intro hb
              left
              by_contra hno
              exact hpart ⟨hb, by omega⟩
            obtain ⟨r', hr', hset, hbuf, hopen⟩ := processQueryBuffer_settled processRequest
              (h.withClock processRequest now) bytes
              (fun hb => by rwa [magicNum_append hb] at hmagic) hgood
            simp only at hbuf hopen
            have hrr := processQueryBuffer_unique processRequest hr' hr
            subst hrr
            rcases hset with ⟨hzero, hwait⟩ | ⟨hret', -, hwhole, hrej⟩
            · rw [if_neg (by simpa using hzero)] at hc₁
              subst hc₁
              refine ih r'.2 c' hwait (hopen.trans hclosed) ?_ ?_ ?_ hrest
              · rwa [hbuf]
              · rwa [hbuf]
              · rwa [hbuf]
            · rw [hbuf] at hwhole hrej
              rw [request_append hwhole] at hret
              exact absurd hret hrej

/-- The connection ends every read and dispatches at most one request if and only
if fewer than `65535 + body_len` bytes arrive, or the request is rejected. This
is for every stream that starts with a valid header, every way it is split into
reads, and every sequence of results of `_process_request`. -/
theorem servesOnce_iff (events : List (Nat × ReadResult))
    (hhead : xheadSize ≤ (received events).length)
    (hmagic : magicNum (received events) = xheadMagicNum) :
    ServesOnce processRequest events ↔
      (received events).length < 65535 + bodyLen (received events) ∨
      processRequest 0 (request (received events)) ≠ 0 := by
  constructor
  · rintro ⟨fuel, c, hserve, hreq⟩
    by_contra hno
    push Not at hno
    have htwo := serve_of_long processRequest events {} c (waiting_init processRequest) rfl hmagic
      hno.1 hno.2 hserve
    omega
  · intro hgood
    obtain ⟨c, hserve, hreq⟩ := serve_of_short processRequest events {}
      (waiting_init processRequest) hhead hmagic hgood
    exact ⟨4, c, hserve, hreq⟩

end

/-- A length that fits an `int` is asked for as it is. -/
theorem readLen_eq_of_lt {c : TcpConnection} {n : Nat} (h : c.bytesExpected = n)
    (hn : n < 2 ^ 31) : c.readLen = n := by
  have hbmod : Int.bmod (n : Int) (2 ^ 32) = n := by
    apply Int.bmod_eq_of_le <;> omega
  have hmod : (n : Int) % 2 ^ 64 = n := by
    apply Int.emod_eq_of_lt
    · exact Int.natCast_nonneg n
    · norm_num
      omega
  unfold TcpConnection.readLen
  simp only [h, hbmod, hmod, Int.toNat_natCast]

/-- A header with the magic number that announces a body of 70000 bytes. -/
def longHead : Bytes :=
  List.replicate 24 0 ++ [0x02, 0x22, 0x20, 0xfb] ++ List.replicate 4 0 ++ [0x70, 0x11, 0x01, 0x00]

/-- A body of 70000 bytes: `{"cmdno":99}` and blanks. There is no such command, and
`_process_request` replies so and returns 0. -/
def longBody : Bytes :=
  [0x7b, 0x22, 0x63, 0x6d, 0x64, 0x6e, 0x6f, 0x22, 0x3a, 0x39, 0x39, 0x7d] ++
    List.replicate 69988 0x20

/-- It is longer than what the sentinel stands for. -/
theorem longBody_length : longBody.length = 70000 := by
  rw [longBody, List.length_append, List.length_replicate]
  rfl

/-- The connection after it has read `longHead`. -/
def longHeadRead : TcpConnection :=
  { querybuf := longHead, bytesExpected := 70000, bytesProcessed := 36, currentState := .body }

/-- The header and its body, each in one read. -/
theorem servesOnce_of_one_frame :
    ServesOnce (fun _ _ => 0) [(0, .data longHead), (1, .data longBody)] := by
  have hhead : xheadSize ≤ longHead.length := by decide +kernel
  have hstream : received [(0, .data longHead), (1, .data longBody)] = longHead ++ longBody := by
    simp [received]
  have hbody : bodyLen (longHead ++ longBody) = 70000 := by
    rw [bodyLen_append hhead]
    decide +kernel
  have hlen : (longHead ++ longBody).length = 70036 := by
    rw [List.length_append, longBody_length]
    rfl
  refine (servesOnce_iff (fun _ _ => 0) _ ?_ ?_).mpr (Or.inl ?_)
  · rw [hstream, hlen]
    decide
  · rw [hstream, magicNum_append hhead]
    decide +kernel
  · rw [hstream, hbody, hlen]
    decide

/-- The same frame followed by 70000 more bytes, in three reads of exactly the
sizes the worker asks for, with every request accepted: the request is
dispatched again, or the last read never ends. -/
theorem trailing_bytes_dispatch_again :
    Admissible (fun _ _ => 0) 4 {} [(0, .data longHead), (1, .data longBody), (2, .data longBody)] ∧
    ¬ ServesOnce (fun _ _ => 0) [(0, .data longHead), (1, .data longBody), (2, .data longBody)] := by
  have hhead : xheadSize ≤ longHead.length := by decide +kernel
  have hmagic : magicNum longHead = xheadMagicNum := by decide +kernel
  have hbody : bodyLen longHead = 70000 := by decide +kernel
  have hlen := longBody_length
  have hlenHead : longHead.length = 36 := by decide +kernel
  have hsize : xheadSize = 36 := rfl
  constructor
  · -- after the header the worker asks for 70000 bytes, and after the body it
    -- asks for as many again
    have hfirst : readQuery (fun _ _ => 0) 4 {} 0 (.data longHead) = some longHeadRead := by
      decide +kernel
    refine ⟨by decide +kernel, by decide +kernel, fun c₁ h₁ _ => ?_⟩
    rw [hfirst] at h₁
    cases h₁
    have hask : longHeadRead.readLen = 70000 := by decide +kernel
    refine ⟨by rw [hask, hlen], by rw [hask]; decide, fun c₂ h₂ _ => ?_⟩
    have hwait : Waiting (fun _ _ => 0) longHeadRead :=
      .body hhead (by simp only [longHeadRead]; omega) rfl rfl hbody.symm rfl
    obtain ⟨r, hr, hset, hbuf, -⟩ := processQueryBuffer_settled (fun _ _ => 0)
      (hwait.withClock _ 1) longBody
      (fun _ => by simp only [longHeadRead]; rw [magicNum_append hhead, hmagic])
      (fun _ => Or.inl (by
        simp only [longHeadRead]
        rw [bodyLen_append hhead, hbody, List.length_append, hlen, hlenHead]
        decide))
    simp only [longHeadRead] at hr hbuf
    simp only [readQuery, longHeadRead, hr, Option.map_some, Option.some.injEq] at h₂
    rcases hset with ⟨hzero, hwait₂⟩ | ⟨-, -, -, hrej⟩
    · rw [if_neg (by simpa using hzero)] at h₂
      subst h₂
      have hexp : r.2.bytesExpected = 70000 := by
        have hbl : bodyLen r.2.querybuf = 70000 := by rw [hbuf, bodyLen_append hhead, hbody]
        have hql : r.2.querybuf.length = 70036 := by
          rw [hbuf, List.length_append, hlen, hlenHead]
        cases hwait₂ with
        | head hlen₂ hstate hproc hexp hreq => omega
        | body hhead₂ hlen₂ hstate hproc hexp hreq => omega
        | served hlen₂ hshort hstate hproc hexp hreq hret => rw [hexp, hbl]
      have hask₂ : r.2.readLen = 70000 := readLen_eq_of_lt hexp (by decide)
      rw [Admissible, hask₂, hlen]
      refine ⟨Nat.le_refl _, by decide, fun c₃ h₃ _ => ?_⟩
      simp only [Admissible]
    · exact absurd (by simp only) hrej
  · have hstream : received [(0, .data longHead), (1, .data longBody), (2, .data longBody)]
        = longHead ++ (longBody ++ longBody) := by
      simp [received]
    have hmagic₂ : magicNum ([] ++ (longHead ++ (longBody ++ longBody))) = xheadMagicNum := by
      rw [List.nil_append, magicNum_append hhead, hmagic]
    have hlong : 65535 + bodyLen ([] ++ (longHead ++ (longBody ++ longBody)))
        ≤ ([] ++ (longHead ++ (longBody ++ longBody))).length := by
      rw [List.nil_append, bodyLen_append hhead, hbody, List.length_append, List.length_append,
        hlen, hlenHead]
      decide
    rintro ⟨fuel, c, hserve, hreq⟩
    rw [← hstream] at hmagic₂ hlong
    have htwo := serve_of_long (fun _ _ => 0) _ {} c (waiting_init _) rfl hmagic₂ hlong rfl hserve
    omega

end Xrtc.Proofs.Server
