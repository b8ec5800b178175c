import VirtioCrash.Fs.Requests
import VirtioCrash.Scsi.Requests
import VirtioCrash.Snd.Requests

/-!
# What becomes of the requests

The three harnesses whose devices answer requests, and the one queue whose requests go unanswered.
-/

namespace VirtioCrash

/-- The requests of a SCSI, a sound or a FUSE run whose ops are `Conversing` lie complete and in
order in the tables of their queues, but all that the rings offer, as soon as there is a request, is
the room for their responses. The high-priority requests of a FUSE run, which have none, arrive. -/
theorem requests_offered :
    (∀ i, Scsi.target.Requests Scsi.asCommon Scsi.say i) ∧
      (∀ i, Snd.target.Requests Snd.asCommon Snd.say i) ∧
      (∀ i, i ≠ Fs.kHpVq → Fs.target.Requests Fs.asCommon Fs.say i) ∧
      Fs.target.Arrives Fs.asCommon Fs.say Fs.kHpVq .fuseHpReq
        (fun l => Fs.decodeInHeader.run l.bytes)
        (fun m => some (Fs.hpHeaderOf m, m.payload.take 256)) :=
  ⟨Scsi.requests, Snd.requests, fun _ hi => Fs.requests hi, Fs.hp_requests⟩

/-- Four commands are laid out with 3, 3, 2 and 4 buffers, and four buffers are offered. -/
theorem requests_offered_disk :
    let v := runFromReset Scsi.target Scsi.diskOps Scsi.disk
    ((chainsOf (laidOut (memoryAfter (fun _ => 0) v.trace) (v.st.vqs 2).descGpa
        (v.st.vqs 2).nextDescIdx.toNat)).map List.length) = [3, 3, 2, 4] ∧
      (v.found (fun _ => 0) 2).length = 4 ∧
      ∀ l ∈ v.found (fun _ => 0) 2, l.deviceWritable = true := by
  intro v
  obtain ⟨hlaid, hfound⟩ :=
    requests_offered.1 2 (fun _ => 0) Scsi.diskOps Scsi.disk (by decide +kernel)
  let ms := messagesOf Scsi.say (taken Scsi.target Scsi.asCommon Scsi.say 2 [] Scsi.diskOps
    (Scsi.target.resetIterationState.run Scsi.disk).2)
  have hlengths : ms.map List.length = [3, 3, 2, 4] := by decide +kernel
  have hcount : ms.length = 4 := by simpa using congrArg List.length hlengths
  have hne : ms ≠ [] := List.length_pos_iff.mp (hcount ▸ by decide)
  obtain ⟨hlength, -, hwritable⟩ := hfound hne
  exact ⟨(congrArg (List.map List.length) hlaid).trans hlengths, hlength.trans hcount, hwritable⟩

end VirtioCrash
