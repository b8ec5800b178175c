import VirtioCrash.Fs.Backend
import VirtioCrash.Lib.Ledger

/-!
# The descriptors of the mock backend

Messages of a vhost-user connection carry file descriptors. `backend_main` closes them as they come
and closes each connection behind its last message. A payload read that fails leaves the control
buffer of the header's read as it was, and the descriptors in it are closed once more.
-/

namespace VirtioCrash.Fs

open Ledger

/-- What a read takes off a stream that has not ended. -/
abbrev SomeBytes := { bytes : List UInt8 // bytes ≠ [] }

/-- What a `recvmsg` returns: an error, the end of the stream, or bytes and descriptors. -/
inductive RecvMsg where
  | fails
  | eof
  | data (bytes : SomeBytes) (fds : List Nat)

/-- The descriptors that come into the process. -/
def RecvMsg.fds : RecvMsg → List Nat
  | .data _ fds => fds
  | _ => []

/-- The descriptors in the control buffer after the read, and those within the length that the
read has left: a read that fails changes neither. -/
def RecvMsg.control (ctrl : List Nat) : RecvMsg → List Nat × List Nat
  | .fails => (ctrl, ctrl)
  | .eof => (ctrl, [])
  | .data _ [] => (ctrl, [])
  | .data _ fds => (fds, fds)

def closePassedFds (passed : List Nat) : List (Entry Nat) := passed.map .closed

/-- One `recvmsg` on a connection, and `close_passed_fds` on what it has left. -/
def receive (cfd : Nat) (ctrl : List Nat) (r : RecvMsg) : List (Entry Nat) :=
  .used cfd :: (r.fds.map .opened ++ closePassedFds (r.control ctrl).2)

/-- Whether there is a reply depends on the request alone. -/
def replyUse (cfd : Nat) (h : VhostUserHdr) : List (Entry Nat) :=
  if (replyTo h 0 []).isSome then [.used cfd] else []

/-- The loop over the messages of a connection, and whether it ends within these reads. -/
def converse (cfd : Nat) : List RecvMsg → List (Entry Nat) × Bool
  | [] => ([], false)
  | .fails :: _ => ([.used cfd], true)
  | .eof :: _ => ([.used cfd], true)
  | .data bytes fds :: reads =>
      let es := receive cfd [] (.data bytes fds)
      if bytes.1.length ≠ 12 then (es, true)
      else
        let h := VhostUserHdr.ofBytes bytes.1
        let ctrl := ((RecvMsg.data bytes fds).control []).1
        if min h.size.toNat 4096 = 0 then
          let (es', ends) := converse cfd reads
          (es ++ replyUse cfd h ++ es', ends)
        else
          match reads with
          | [] => (es, false)
          | .data payload fds' :: reads =>
              let (es', ends) := converse cfd reads
              (es ++ receive cfd ctrl (.data payload fds') ++ replyUse cfd h ++ es', ends)
          | r :: _ => (es ++ receive cfd ctrl r, true)

inductive Accepted where
  | interrupted
  | fails
  | conn (cfd : Nat) (reads : List RecvMsg)

/-- `backend_main`, and the connection it is still on. -/
def descriptorUse : List Accepted → List (Entry Nat) × Option Nat
  | [] => ([], none)
  | .interrupted :: as => descriptorUse as
  | .fails :: _ => ([], none)
  | .conn cfd reads :: as =>
      let (es, ends) := converse cfd reads
      if ends then
        let (es', client) := descriptorUse as
        (.opened cfd :: (es ++ .closed cfd :: es'), client)
      else (.opened cfd :: es, some cfd)

/-- No payload read fails when descriptors have come with the header. -/
def PayloadsRead : List RecvMsg → Prop
  | .data bytes fds :: reads =>
      if bytes.1.length ≠ 12 then True
      else if min (VhostUserHdr.ofBytes bytes.1).size.toNat 4096 = 0 then PayloadsRead reads
      else
        match reads with
        | .fails :: _ => fds = []
        | .data _ _ :: reads => PayloadsRead reads
        | _ => True
  | _ => True

/-- The connections that are taken up. -/
def PayloadsReadOn : List Accepted → Prop
  | .interrupted :: as => PayloadsReadOn as
  | .conn cfd reads :: as =>
      PayloadsRead reads ∧ ((converse cfd reads).2 = true → PayloadsReadOn as)
  | _ => True

/-- A descriptor that comes in has not the number of the connection, which is open. -/
def NewNumbers (as : List Accepted) : Prop :=
  ∀ cfd reads, .conn cfd reads ∈ as → ∀ r ∈ reads, cfd ∉ r.fds

section

variable {cfd : Nat} {held : Multiset Nat}

private theorem control_data (bytes : SomeBytes) (fds ctrl : List Nat) :
    ((RecvMsg.data bytes fds).control ctrl).2 = fds := by
  cases fds with
  | nil => rfl
  | cons fd fds => rfl

private theorem control_header (bytes : SomeBytes) (fds : List Nat) :
    ((RecvMsg.data bytes fds).control []).1 = fds := by
  cases fds with
  | nil => rfl
  | cons fd fds => rfl

private theorem settle_receive (hcfd : cfd ∈ held) (ctrl : List Nat) (bytes : SomeBytes)
    (fds : List Nat) : settle (receive cfd ctrl (.data bytes fds)) held = some held := by
  rw [receive, settle_used hcfd, control_data]
  exact settle_passed fds held

private theorem settle_replyUse (hcfd : cfd ∈ held) (h : VhostUserHdr) :
    settle (replyUse cfd h) held = some held := by
  rw [replyUse]
  split
  · exact settle_used hcfd []
  · rfl

private theorem settle_receive_fails {fd : Nat} {ctrl : List Nat} (hcfd : cfd ∈ held)
    (hfd : fd ∉ held) : settle (receive cfd (fd :: ctrl) .fails) held = none := by
  rw [receive, settle_used hcfd]
  exact settle_absent hfd _

private theorem payloadsRead_header {bytes : SomeBytes} {fds : List Nat} {reads : List RecvMsg}
    (hlen : ¬bytes.1.length ≠ 12) (hsz : min (VhostUserHdr.ofBytes bytes.1).size.toNat 4096 = 0) :
    PayloadsRead (.data bytes fds :: reads) ↔ PayloadsRead reads := by
  rcases reads with _ | ⟨_ | _ | _, reads⟩ <;>
    simp only [PayloadsRead, hlen, hsz, if_true, if_false]

private theorem payloadsRead_payload {bytes : SomeBytes} {fds : List Nat} {r : RecvMsg}
    {reads : List RecvMsg} (hlen : ¬bytes.1.length ≠ 12)
    (hsz : min (VhostUserHdr.ofBytes bytes.1).size.toNat 4096 ≠ 0) :
    PayloadsRead (.data bytes fds :: r :: reads) ↔
      match r with
      | .fails => fds = []
      | .eof => True
      | .data _ _ => PayloadsRead reads := by
  cases r <;> simp only [PayloadsRead, hlen, hsz, if_false]

private theorem converse_settles {reads : List RecvMsg} (hcfd : cfd ∈ held)
    (hreads : PayloadsRead reads) : settle (converse cfd reads).1 held = some held := by
  fun_induction converse cfd reads with
  | case1 => rfl
  | case2 => exact settle_used hcfd []
  | case3 => exact settle_used hcfd []
  | case4 => exact settle_receive hcfd _ _ _
  | case5 bytes fds reads es hlen h hsz es' ends hrest ih =>
      have hfrom := ih ((payloadsRead_header hlen hsz).mp hreads)
      rw [hrest] at hfrom
      dsimp only
      rw [settle_append, settle_append, settle_receive hcfd, Option.bind_some,
        settle_replyUse hcfd, Option.bind_some, hfrom]
  | case6 => exact settle_receive hcfd _ _ _
  | case7 bytes fds es hlen h ctrl hsz payload fds' reads es' ends hrest ih =>
      have hfrom := ih ((payloadsRead_payload hlen hsz).mp hreads)
      rw [hrest] at hfrom
      dsimp only
      rw [settle_append, settle_append, settle_append, settle_receive hcfd, Option.bind_some,
        settle_receive hcfd, Option.bind_some, settle_replyUse hcfd, Option.bind_some, hfrom]
  | case8 bytes fds es hlen h ctrl hsz r reads hr =>
      dsimp only
      rw [settle_append, settle_receive hcfd, Option.bind_some]
      cases r with
      | fails =>
          have hfds : fds = [] := (payloadsRead_payload hlen hsz).mp hreads
          have hctrl : ctrl = [] := (control_header bytes fds).trans hfds
          rw [hctrl]
          exact settle_used hcfd []
      | eof => exact settle_used hcfd []
      | data payload fds' => exact absurd rfl (hr payload fds')

private theorem converse_spoils {reads : List RecvMsg} (hreads : ¬PayloadsRead reads)
    (hnew : ∀ r ∈ reads, cfd ∉ r.fds) : settle (converse cfd reads).1 {cfd} = none := by
  have hcfd : cfd ∈ ({cfd} : Multiset Nat) := Multiset.mem_singleton_self cfd
  fun_induction converse cfd reads with
  | case1 => exact absurd trivial hreads
  | case2 => exact absurd trivial hreads
  | case3 => exact absurd trivial hreads
  | case4 bytes fds reads es hlen =>
      refine absurd ?_ hreads
      rcases reads with _ | ⟨_ | _ | _, reads⟩ <;> simp only [PayloadsRead, if_pos hlen]
  | case5 bytes fds reads es hlen h hsz es' ends hrest ih =>
      rw [payloadsRead_header hlen hsz] at hreads
      have hfrom := ih hreads (fun r hr =>
        hnew r (List.mem_cons_of_mem _ hr))
      rw [hrest] at hfrom
      dsimp only
      rw [settle_append, settle_append, settle_receive hcfd, Option.bind_some,
        settle_replyUse hcfd, Option.bind_some, hfrom]
  | case6 bytes fds es hlen h hsz =>
      refine absurd ?_ hreads
      simp only [PayloadsRead, ite_self]
  | case7 bytes fds es hlen h ctrl hsz payload fds' reads es' ends hrest ih =>
      rw [payloadsRead_payload hlen hsz] at hreads
      have hfrom := ih hreads (fun r hr =>
        hnew r (List.mem_cons_of_mem _ (List.mem_cons_of_mem _ hr)))
      rw [hrest] at hfrom
      dsimp only
      rw [settle_append, settle_append, settle_append, settle_receive hcfd, Option.bind_some,
        settle_receive hcfd, Option.bind_some, settle_replyUse hcfd, Option.bind_some, hfrom]
  | case8 bytes fds es hlen h ctrl hsz r reads hr =>
      rw [payloadsRead_payload hlen hsz] at hreads
      dsimp only
      rw [settle_append, settle_receive hcfd, Option.bind_some]
      cases r with
      | fails =>
          rcases fds with _ | ⟨fd, fds⟩
          · exact absurd rfl hreads
          · apply settle_receive_fails hcfd
            rw [Multiset.mem_singleton]
            rintro rfl
            exact hnew _ List.mem_cons_self List.mem_cons_self
      | eof => exact absurd trivial hreads
      | data payload fds' => exact absurd rfl (hr payload fds')

end

private theorem settle_closed_only (cfd : Nat) (es : List (Entry Nat)) :
    settle (.closed cfd :: es) {cfd} = settle es 0 := by
  rw [settle_cons, Entry.post, if_pos (Multiset.mem_singleton_self cfd), Option.bind_some,
    Multiset.erase_singleton]

/-- The backend uses and closes only what it holds, and holds nothing but the connection it is on,
exactly when no payload read fails that comes behind a header with descriptors. -/
theorem descriptors_settled_iff (as : List Accepted) (hnew : NewNumbers as) :
    settle (descriptorUse as).1 0 = some (Multiset.ofList (descriptorUse as).2.toList) ↔
      PayloadsReadOn as := by
  fun_induction descriptorUse as with
  | case1 => simp [PayloadsReadOn]
  | case2 as ih =>
      rw [PayloadsReadOn]
      exact ih fun cfd reads hc => hnew cfd reads (List.mem_cons_of_mem _ hc)
  | case3 => simp [PayloadsReadOn]
  | case4 cfd reads as es es' client hrest hconverse ih =>
      have hfrom := ih fun cfd' reads' hc => hnew cfd' reads' (List.mem_cons_of_mem _ hc)
      have hopened : (settle (.opened cfd :: (es ++ .closed cfd :: es')) 0) =
          (settle es {cfd}).bind (settle (.closed cfd :: es')) := settle_append es _ _
      dsimp only
      rw [PayloadsReadOn, hconverse, hopened]
      by_cases hreads : PayloadsRead reads
      · have hsettles := converse_settles (Multiset.mem_singleton_self cfd) hreads
        rw [hconverse] at hsettles
        rw [hrest] at hfrom
        rw [hsettles, Option.bind_some, settle_closed_only, hfrom]
        simp [hreads]
      · have hspoils := converse_spoils hreads (hnew cfd reads List.mem_cons_self)
        rw [hconverse] at hspoils
        rw [hspoils]
        simp [hreads]
  | case5 cfd reads as es ends hconverse hends =>
      have hopened : (settle (.opened cfd :: es) 0) = settle es {cfd} := rfl
      dsimp only
      rw [PayloadsReadOn, hconverse, hopened]
      by_cases hreads : PayloadsRead reads
      · have hsettles := converse_settles (Multiset.mem_singleton_self cfd) hreads
        rw [hconverse] at hsettles
        rw [hsettles]
        simp [hreads, hends]
      · have hspoils := converse_spoils hreads (hnew cfd reads List.mem_cons_self)
        rw [hconverse] at hspoils
        rw [hspoils]
        simp [hreads]

/-- A `SET_VRING_KICK` with its descriptor 7, whose payload read is interrupted. -/
def interruptedKick : List Accepted :=
  [.conn 5 [.data ⟨VhostUserHdr.bytes ⟨12, vhostUserVersion, 8⟩, by decide⟩ [7], .fails]]

theorem descriptors_settled_iff_interruptedKick :
    settle (descriptorUse interruptedKick).1 0 =
        some (Multiset.ofList (descriptorUse interruptedKick).2.toList) ↔
      PayloadsReadOn interruptedKick := by
  apply descriptors_settled_iff
  intro cfd reads hconn r hr
  cases List.mem_singleton.mp hconn
  rcases List.mem_pair.mp hr with rfl | rfl
  · decide
  · decide

/-- The descriptor is closed a second time. -/
example : (descriptorUse interruptedKick).1 =
    [.opened 5, .used 5, .opened 7, .closed 7, .used 5, .closed 7, .closed 5] := by decide

end VirtioCrash.Fs
