import VirtioCrash.Lib.Bytes
import VirtioCrash.Lib.SplitStream

/-!
# The mock vhost-user backend

The connection loop of `backend_main` in `proto_fuzz_virtio_fs.cc`. It takes one `recvmsg` for a
header and one for a payload, so the messages come out as they went in exactly when the stream is
never split inside one of them and no payload is larger than the buffer.
-/

namespace VirtioCrash.Fs

open Bytes SplitStream

def vhostUserGetFeatures : UInt32 := 1
def vhostUserGetVringBase : UInt32 := 11
def vhostUserGetProtocolFeatures : UInt32 := 15
def vhostUserGetQueueNum : UInt32 := 17

def vhostUserFlagReply : UInt32 := 0x4
def vhostUserVersion : UInt32 := 0x1

def kBackendFeatures : UInt64 := 0x100000000
def kBackendProtocolFeatures : UInt64 := 0
def kBackendQueueNum : UInt64 := 1024

structure VhostUserHdr where
  request : UInt32
  flags : UInt32
  size : UInt32
  deriving DecidableEq

namespace VhostUserHdr

def bytes (h : VhostUserHdr) : List UInt8 := le32 h.request ++ le32 h.flags ++ le32 h.size

def ofBytes (bs : List UInt8) : VhostUserHdr where
  request := UInt32.ofNat (ofLe (slice bs 0 4))
  flags := UInt32.ofNat (ofLe (slice bs 4 4))
  size := UInt32.ofNat (ofLe (slice bs 8 4))

@[simp] theorem bytes_length (h : VhostUserHdr) : h.bytes.length = 12 := by
  simp [bytes]

@[simp] theorem ofBytes_bytes (h : VhostUserHdr) : ofBytes h.bytes = h := by
  have hrequest : slice h.bytes 0 4 = le32 h.request := by
    rw [bytes, List.append_assoc]
    exact slice_zero_append (le32 h.request) _
  have hflags : slice h.bytes 4 4 = le32 h.flags := by
    rw [bytes, List.append_assoc, slice_append_right _ _ _ _ (by simp)]
    exact slice_zero_append (le32 h.flags) _
  have hsize : slice h.bytes 8 4 = le32 h.size := by
    rw [bytes, slice_append_right _ _ _ _ (by simp)]
    simp [slice, List.take_of_length_le]
  simp [ofBytes, hrequest, hflags, hsize]

end VhostUserHdr

/-- `vring_state` as `GET_VRING_BASE` carries it both ways. -/
structure VringState where
  idx : UInt32
  num : UInt32
  deriving DecidableEq

def VringState.bytes (r : VringState) : List UInt8 := le32 r.idx ++ le32 r.num

/-- `send_reply`: header and payload in one `sendmsg`. -/
def sendReply (request : UInt32) (payload : List UInt8) (size : UInt32) : List UInt8 :=
  let h : VhostUserHdr := ⟨request, vhostUserVersion ||| vhostUserFlagReply, size⟩
  h.bytes ++ payload.take size.toNat

/-- The reply to a message with `sz` payload bytes expected in the buffer. -/
def replyTo (h : VhostUserHdr) (sz : Nat) (payload : List UInt8) : Option (List UInt8) :=
  if h.request = vhostUserGetFeatures then
    some (sendReply h.request (le64 kBackendFeatures) 8)
  else if h.request = vhostUserGetProtocolFeatures then
    some (sendReply h.request (le64 kBackendProtocolFeatures) 8)
  else if h.request = vhostUserGetQueueNum then
    some (sendReply h.request (le64 kBackendQueueNum) 8)
  else if h.request = vhostUserGetVringBase then
    let reply : VringState :=
      if sz ≥ 8 then
        ⟨UInt32.ofNat (ofLe (slice payload 0 4)), UInt32.ofNat (ofLe (slice payload 4 4))⟩
      else ⟨0, 0⟩
    some (sendReply h.request { reply with num := 0 }.bytes 8)
  else none

/-- A message as the backend took it off the connection. -/
structure Handled where
  hdr : VhostUserHdr
  payload : List UInt8
  deriving DecidableEq

structure Client where
  conn : Conn UInt8
  handled : List Handled
  sent : List (List UInt8)

/-- What the code does not decide: how the stream is split, and what the uninitialised `payload`
buffer holds before a read. -/
structure Socket where
  cut : Split
  stale : Nat → List UInt8

/-- One pass of the loop; `none` where it breaks. -/
def pass (sock : Socket) (s : Client) : Option Client :=
  let (hb, conn) := recv sock.cut 12 s.conn
  -- also when the peer has closed the connection and no byte is left
  if hb.length ≠ 12 then none
  else
    let h := VhostUserHdr.ofBytes hb
    let sz := min h.size.toNat 4096
    if sz = 0 then
      some ⟨conn, s.handled ++ [⟨h, []⟩],
        s.sent ++ (replyTo h sz (sock.stale conn.reads)).toList⟩
    else
      let (data, conn') := recv sock.cut sz conn
      if data = [] then none
      else
        let payload := data ++ (sock.stale conn.reads).drop data.length
        some ⟨conn', s.handled ++ [⟨h, data⟩], s.sent ++ (replyTo h sz payload).toList⟩

/-- `backend_main` on a connection over which the bytes arrive. -/
def backendMain (sock : Socket) (bytes : List UInt8) : Client :=
  loop (pass sock) (bytes.length + 1) ⟨⟨bytes, 0⟩, [], []⟩

private theorem pass_cases {sock : Socket} {s t : Client} (h : pass sock s = some t) :
    t.conn.unread.length < s.conn.unread.length ∧
      ∃ x r, t.handled = s.handled ++ [x] ∧ t.sent = s.sent ++ r := by
  have hheader := recv_length_add sock.cut 12 s.conn
  simp only [pass] at h
  split at h
  · cases h
  · rename_i hlen
    split at h
    · cases h
      refine ⟨?_, _, _, rfl, rfl⟩
      simp only
      omega
    · split at h
      · cases h
      · cases h
        have hpayload := recv_length_add sock.cut
          (min (VhostUserHdr.ofBytes (recv sock.cut 12 s.conn).1).size.toNat 4096)
          (recv sock.cut 12 s.conn).2
        refine ⟨?_, _, _, rfl, rfl⟩
        simp only
        omega

private theorem handled_prefix (sock : Socket) (fuel : Nat) (s : Client) :
    s.handled <+: (loop (pass sock) fuel s).handled := by
  apply loop_prefix (fun s : Client => s.handled)
  intro s t h
  obtain ⟨-, x, r, hx, -⟩ := pass_cases h
  exact ⟨[x], hx.symm⟩

private theorem sent_prefix (sock : Socket) (fuel : Nat) (s : Client) :
    s.sent <+: (loop (pass sock) fuel s).sent := by
  apply loop_prefix (fun s : Client => s.sent)
  intro s t h
  obtain ⟨-, x, r, -, hr⟩ := pass_cases h
  exact ⟨r, hr.symm⟩

/-- The loop ends because a pass breaks, never for want of fuel. -/
theorem backendMain_done (sock : Socket) (bytes : List UInt8) :
    pass sock (backendMain sock bytes) = none := by
  apply loop_done (fun s : Client => s.conn.unread.length)
  · intro s t h
    exact (pass_cases h).1
  · exact Nat.lt_succ_self _

/-- A vhost-user message; its header has the payload's size in 32 bits. -/
structure Message where
  request : UInt32
  flags : UInt32
  payload : List UInt8
  fits : payload.length < 2 ^ 32

namespace Message

def hdr (m : Message) : VhostUserHdr := ⟨m.request, m.flags, UInt32.ofNat m.payload.length⟩

def bytes (m : Message) : List UInt8 := m.hdr.bytes ++ m.payload

/-- The `idx` of the `vring_state` in the payload; bytes it does not have count as zero. -/
def idx (m : Message) : UInt32 := UInt32.ofNat (ofLe (slice m.payload 0 4))

/-- The reply that a message is to get, if it is to get one. -/
def reply (m : Message) : Option (List UInt8) :=
  if m.request = vhostUserGetFeatures then
    some (sendReply m.request (le64 kBackendFeatures) 8)
  else if m.request = vhostUserGetProtocolFeatures then
    some (sendReply m.request (le64 kBackendProtocolFeatures) 8)
  else if m.request = vhostUserGetQueueNum then
    some (sendReply m.request (le64 kBackendQueueNum) 8)
  else if m.request = vhostUserGetVringBase then
    some (sendReply m.request (VringState.mk m.idx 0).bytes 8)
  else none

/-- The network delivers the message in one piece for each read, and the buffer holds it. -/
def ReadWhole (cut : Split) (r : Nat) (m : Message) : Prop :=
  12 ≤ (cut r : Nat) ∧
    (m.payload = [] ∨ m.payload.length ≤ 4096 ∧ m.payload.length ≤ (cut (r + 1) : Nat))

instance (cut : Split) (r : Nat) (m : Message) : Decidable (m.ReadWhole cut r) :=
  inferInstanceAs (Decidable (_ ∧ _))

/-- How many reads a message takes that is read whole. -/
def reads (m : Message) : Nat := if m.payload = [] then 1 else 2

/-- A `GET_VRING_BASE` has a whole `vring_state` to echo, or its index is the default. -/
def EchoFits (m : Message) : Prop :=
  m.request = vhostUserGetVringBase → 8 ≤ m.payload.length ∨ m.idx = 0

instance (m : Message) : Decidable m.EchoFits := inferInstanceAs (Decidable (_ → _))

end Message

/-- Every message of a connection is read whole, from read `r` on. -/
def ReadsWhole (cut : Split) : Nat → List Message → Prop
  | _, [] => True
  | r, m :: ms => m.ReadWhole cut r ∧ ReadsWhole cut (r + m.reads) ms

/-- The backend handles exactly the messages that were sent, in order, and answers each that asks
for a reply by one reply. -/
def FramingKept (sock : Socket) (ms : List Message) : Prop :=
  let s := backendMain sock (ms.flatMap Message.bytes)
  s.handled = ms.map (fun m => ⟨m.hdr, m.payload⟩) ∧ s.sent = ms.filterMap Message.reply

private theorem hdr_size (m : Message) : m.hdr.size.toNat = m.payload.length := by
  have hfits := m.fits
  rw [Message.hdr, UInt32.toNat_ofNat']
  omega

private theorem replyTo_append (h : VhostUserHdr) {sz : Nat} (data rest : List UInt8)
    (hsz : sz ≤ data.length) : replyTo h sz (data ++ rest) = replyTo h sz data := by
  by_cases h8 : sz ≥ 8
  · have hidx : slice (data ++ rest) 0 4 = slice data 0 4 :=
      slice_append_left data rest 0 4 (by omega)
    simp only [replyTo, h8, if_true, hidx]
  · simp only [replyTo, h8, if_false]

private theorem recv_header {sock : Socket} {c : Conn UInt8} {m : Message} {rest : List UInt8}
    (hun : c.unread = m.bytes ++ rest) (hcut : 12 ≤ (sock.cut c.reads : Nat)) :
    recv sock.cut 12 c = (m.hdr.bytes, ⟨m.payload ++ rest, c.reads + 1⟩) := by
  have hlen := m.hdr.bytes_length
  rw [← hlen]
  apply recv_whole
  · rw [hun, Message.bytes, List.append_assoc]
  · rw [hlen]
    exact hcut

/-- The backend after a message that was read whole. -/
def Client.next (s : Client) (m : Message) (rest : List UInt8) : Client where
  conn := ⟨rest, s.conn.reads + m.reads⟩
  handled := s.handled ++ [⟨m.hdr, m.payload⟩]
  sent := s.sent ++ (replyTo m.hdr m.payload.length m.payload).toList

private theorem pass_whole {sock : Socket} {s : Client} {m : Message} {rest : List UInt8}
    (hun : s.conn.unread = m.bytes ++ rest) (hwhole : m.ReadWhole sock.cut s.conn.reads) :
    pass sock s = some (s.next m rest) := by
  obtain ⟨hcut, hpayload⟩ := hwhole
  have hheader := recv_header hun hcut
  by_cases hempty : m.payload = []
  · have hreply (buf : List UInt8) : replyTo m.hdr 0 buf = replyTo m.hdr 0 [] :=
      replyTo_append m.hdr [] buf le_rfl
    simp [pass, hheader, hdr_size, hempty, Client.next, Message.reads, hreply]
  · obtain ⟨hsmall, hcut'⟩ := hpayload.resolve_left hempty
    have hdata := recv_whole sock.cut ⟨m.payload ++ rest, s.conn.reads + 1⟩ m.payload rest rfl hcut'
    have hreply := replyTo_append m.hdr m.payload
      ((sock.stale (s.conn.reads + 1)).drop m.payload.length) le_rfl
    simp [pass, hheader, hdr_size, hempty, Client.next, Message.reads, Nat.min_eq_left hsmall,
      hdata, hreply]

private theorem pass_broken {sock : Socket} {s t : Client} {m : Message} {rest : List UInt8}
    (hun : s.conn.unread = m.bytes ++ rest) (hwhole : ¬m.ReadWhole sock.cut s.conn.reads)
    (h : pass sock s = some t) :
    ∃ x, x ≠ ⟨m.hdr, m.payload⟩ ∧ t.handled = s.handled ++ [x] := by
  have hlen := recv_length sock.cut 12 s.conn
  have hmin : 12 ≤ s.conn.unread.length := by
    rw [hun, Message.bytes, List.length_append, List.length_append, m.hdr.bytes_length]
    omega
  by_cases hcut : 12 ≤ (sock.cut s.conn.reads : Nat)
  · have hheader := recv_header hun hcut
    have hnot : ¬(m.payload = [] ∨ m.payload.length ≤ 4096 ∧
        m.payload.length ≤ (sock.cut (s.conn.reads + 1) : Nat)) := fun hp => hwhole ⟨hcut, hp⟩
    rw [not_or] at hnot
    obtain ⟨hne, hnot⟩ := hnot
    have hdata := recv_length sock.cut (min m.payload.length 4096)
      ⟨m.payload ++ rest, s.conn.reads + 1⟩
    have hshort : (recv sock.cut (min m.payload.length 4096)
        ⟨m.payload ++ rest, s.conn.reads + 1⟩).1.length < m.payload.length := by
      simp only at hdata
      omega
    have hsz : min m.payload.length 4096 ≠ 0 := by
      have hpos := List.length_pos_iff.mpr hne
      omega
    simp only [pass, hheader, VhostUserHdr.bytes_length, ne_eq, not_true_eq_false, if_false,
      VhostUserHdr.ofBytes_bytes, hdr_size, hsz] at h
    split at h
    · cases h
    · cases h
      refine ⟨_, ?_, rfl⟩
      intro hsame
      rw [(Handled.mk.inj hsame).2] at hshort
      exact lt_irrefl _ hshort
  · have hbreak : (recv sock.cut 12 s.conn).1.length ≠ 12 := by omega
    simp [pass, hbreak] at h

private theorem vringReply_inj (r idx idx' : UInt32) :
    sendReply r (VringState.mk idx 0).bytes 8 = sendReply r (VringState.mk idx' 0).bytes 8 ↔
      idx = idx' := by
  constructor
  · intro h
    have htake (i : UInt32) : (VringState.mk i 0).bytes.take (8 : UInt32).toNat =
        le32 i ++ le32 0 := by
      apply List.take_of_length_le
      simp [VringState.bytes]
    have hbytes := List.append_cancel_left h
    rw [htake, htake] at hbytes
    have hidx := congrArg ofLe (List.append_cancel_right hbytes)
    rw [ofLe_le32, ofLe_le32] at hidx
    exact UInt32.toNat_inj.mp hidx
  · intro h
    rw [h]

private theorem replyTo_eq_iff (m : Message) :
    replyTo m.hdr m.payload.length m.payload = m.reply ↔ m.EchoFits := by
  have hrequest : m.hdr.request = m.request := rfl
  by_cases hbase : m.request = vhostUserGetVringBase
  · have hfirst : replyTo m.hdr m.payload.length m.payload =
        some (sendReply m.request (VringState.mk
          (if m.payload.length ≥ 8 then m.idx else 0) 0).bytes 8) := by
      rw [replyTo, hrequest, hbase, if_neg (by decide), if_neg (by decide), if_neg (by decide),
        if_pos rfl, Message.idx]
      split <;> rfl
    have hsecond : m.reply = some (sendReply m.request (VringState.mk m.idx 0).bytes 8) := by
      rw [Message.reply, hbase, if_neg (by decide), if_neg (by decide), if_neg (by decide),
        if_pos rfl]
    rw [hfirst, hsecond, Option.some_inj, vringReply_inj]
    by_cases h8 : m.payload.length ≥ 8
    · simp [Message.EchoFits, h8]
    · have hlt : ¬8 ≤ m.payload.length := h8
      simp [Message.EchoFits, hbase, hlt, eq_comm]
  · simp [replyTo, Message.reply, hrequest, hbase, Message.EchoFits]

private theorem replyTo_isSome (m : Message) :
    (replyTo m.hdr m.payload.length m.payload).isSome = m.reply.isSome := by
  have hrequest : m.hdr.request = m.request := rfl
  simp only [replyTo, Message.reply, hrequest]
  repeat' split
  all_goals rfl

private theorem filterMap_cons_toList {α β : Type} (f : α → Option β) (a : α) (as : List α) :
    (a :: as).filterMap f = (f a).toList ++ as.filterMap f := by
  cases h : f a with
  | none => simp [h]
  | some b => simp [h]

private theorem toList_eq_of_prefix {β : Type} {xs ys out : List β} {a b : Option β}
    (hsome : a.isSome = b.isSome) (hpre : xs ++ a.toList <+: out)
    (hout : out = xs ++ (b.toList ++ ys)) : a = b := by
  rw [hout, List.prefix_append_right_inj] at hpre
  cases a with
  | none =>
      cases b with
      | none => rfl
      | some b => cases hsome
  | some a =>
      cases b with
      | none => cases hsome
      | some b => simpa using hpre

/-- From any point of the connection on, the rest of the messages is handled and answered as it
should be exactly when each of them is read whole and can be echoed. -/
private theorem loop_iff (sock : Socket) (ms : List Message) (fuel : Nat) (s : Client)
    (hun : s.conn.unread = ms.flatMap Message.bytes) (hfuel : s.conn.unread.length < fuel) :
    ((loop (pass sock) fuel s).handled = s.handled ++ ms.map (fun m => ⟨m.hdr, m.payload⟩) ∧
      (loop (pass sock) fuel s).sent = s.sent ++ ms.filterMap Message.reply) ↔
    ReadsWhole sock.cut s.conn.reads ms ∧ ∀ m ∈ ms, m.EchoFits := by
  induction ms generalizing fuel s with
  | nil =>
      have hbreak : pass sock s = none := by
        have hlen := recv_length sock.cut 12 s.conn
        have hshort : (recv sock.cut 12 s.conn).1.length ≠ 12 := by
          rw [hlen, hun]
          simp
        simp [pass, hshort]
      rw [loop_break hbreak]
      simp [ReadsWhole]
  | cons m ms ih =>
      obtain ⟨fuel, rfl⟩ := Nat.exists_eq_succ_of_ne_zero (Nat.ne_of_gt (Nat.zero_lt_of_lt hfuel))
      have hun' : s.conn.unread = m.bytes ++ ms.flatMap Message.bytes := hun
      by_cases hwhole : m.ReadWhole sock.cut s.conn.reads
      · have hpass := pass_whole hun' hwhole
        have hless := (pass_cases hpass).1
        have hrest := ih fuel (s.next m (ms.flatMap Message.bytes)) rfl (by omega)
        rw [loop_pass hpass, filterMap_cons_toList]
        constructor
        · rintro ⟨hhandled, hsent⟩
          have hpre := sent_prefix sock fuel (s.next m (ms.flatMap Message.bytes))
          have hreply := toList_eq_of_prefix (replyTo_isSome m) hpre hsent
          obtain ⟨hreads, hecho⟩ := hrest.mp ⟨by simpa [Client.next] using hhandled, by
            simpa [Client.next, hreply] using hsent⟩
          exact ⟨⟨hwhole, hreads⟩, List.forall_mem_cons.mpr ⟨(replyTo_eq_iff m).mp hreply, hecho⟩⟩
        · rintro ⟨⟨-, hreads⟩, hecho⟩
          obtain ⟨hfirst, hecho⟩ := List.forall_mem_cons.mp hecho
          have hreply := (replyTo_eq_iff m).mpr hfirst
          obtain ⟨hhandled, hsent⟩ := hrest.mpr ⟨hreads, hecho⟩
          exact ⟨by simpa [Client.next] using hhandled, by
            simpa [Client.next, hreply] using hsent⟩
      · constructor
        · rintro ⟨hhandled, -⟩
          rcases hpass : pass sock s with _ | t
          · rw [loop_break hpass] at hhandled
            simp at hhandled
          · obtain ⟨x, hne, hx⟩ := pass_broken hun' hwhole hpass
            have hpre := handled_prefix sock fuel t
            rw [loop_pass hpass] at hhandled
            rw [hhandled, hx, List.prefix_append_right_inj] at hpre
            exact absurd (List.cons_prefix_cons.mp hpre).1 hne
        · rintro ⟨⟨hwhole', -⟩, -⟩
          exact absurd hwhole' hwhole

/-- On every connection, however the network splits it, the backend keeps the framing exactly when
no message is split between reads or larger than the buffer, and none asks for an echo of a
`vring_state` that it does not have. -/
theorem framing_kept_iff (sock : Socket) (ms : List Message) :
    FramingKept sock ms ↔ ReadsWhole sock.cut 0 ms ∧ ∀ m ∈ ms, m.EchoFits := by
  have h := loop_iff sock ms ((ms.flatMap Message.bytes).length + 1)
    ⟨⟨ms.flatMap Message.bytes, 0⟩, [], []⟩ rfl (Nat.lt_succ_self _)
  simpa [FramingKept, backendMain] using h

/-- A header that arrives in two reads ends the connection without the reply it asks for. -/
theorem framing_lost_on_split_header :
    ¬FramingKept ⟨fun _ => 5, fun _ => []⟩
      [⟨vhostUserGetFeatures, vhostUserVersion, [], by decide⟩] := by
  rintro ⟨hhandled, -⟩
  revert hhandled
  decide

end VirtioCrash.Fs
