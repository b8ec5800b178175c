import VirtioCrash.Gpu.Submission
import VirtioCrash.Harness.AllOrNothing

/-!
# How a gpu command ends

`submit_cmd` drops a command or publishes its request and room for the response as one chain.
-/

namespace VirtioCrash.Gpu

open StateProgram

/-- The lengths and directions of the buffers of a command. -/
def CmdChain (reqLen respLen : UInt32) (ps : List Piece) : Prop :=
  ps.map (fun p => (p.len, p.deviceWritable)) = [(reqLen, false), (respLen, true)]

private theorem allocGpa_staged {w₀ w : World kMaxQueues GpuDevice} (hs : Steps stagingActs w₀ w)
    (len : UInt32) :
    Post (allocGpa len) (fun gpa w' => Steps stagingActs w₀ w' ∧ (gpa ≠ 0 → Allocated gpa len w'))
      w := by
  constructor
  · exact hs.trans (within_allocGpa (by decide) len w)
  · intro hne
    rcases allocGpa_post len w with h0 | hw
    · exact absurd h0 hne
    · exact hw

private theorem ackInterrupt_run (w : World kMaxQueues GpuDevice) :
    ∃ es, (ackInterrupt.run w).2 = { w with trace := es ++ w.trace } ∧
      ∀ e ∈ es, e.isMemWrite = false ∧ e.isNotify = false := by
  rw [ackInterrupt, StateProgram.run_bind]
  generalize hv : ((mmioReadl rIntStatus : GpuM UInt32).run w).1 = st
  have hread : ((mmioReadl rIntStatus : GpuM UInt32).run w).2 =
      { w with trace := .mmioRead 4 (kVirtioMmioBase + rIntStatus) st :: w.trace } := by
    rw [← hv]
    rfl
  rw [hread]
  by_cases hst : st ≠ 0
  · rw [if_pos hst]
    refine ⟨[.mmioWrite 4 (kVirtioMmioBase + rIntAck) st,
      .mmioRead 4 (kVirtioMmioBase + rIntStatus) st], rfl, ?_⟩
    intro e he
    simp only [List.mem_cons, List.not_mem_nil, or_false] at he
    rcases he with rfl | rfl
    · have hreg : kVirtioMmioBase + rIntAck ≠ kVirtioMmioBase + rQueueNotify := by decide
      exact ⟨rfl, by simpa [Event.isNotify] using hreg⟩
    · exact ⟨rfl, rfl⟩
  · rw [if_neg hst]
    refine ⟨[.mmioRead 4 (kVirtioMmioBase + rIntStatus) st], rfl, ?_⟩
    intro e he
    rw [List.mem_singleton.mp he]
    exact ⟨rfl, rfl⟩

private theorem outcome_publish (vq : Fin kMaxQueues) (req : List UInt8) (reqGpa respGpa : UInt64)
    (reqLen respLen : UInt32) {w₀ w : World kMaxQueues GpuDevice} (hs : Steps stagingActs w₀ w) :
    Post (do
      let _ ← placeDesc vq reqGpa reqLen false true
      let _ ← placeDesc vq respGpa respLen true false
      note (.submit vq req)
      mmioWritel rQueueNotify (UInt32.ofNat vq)
      flushEvents
      ackInterrupt
      return respGpa) (fun _ => Outcome vq (CmdChain reqLen respLen) w₀) w := by
  rw [post_bind, Post, placeDesc_run, post_bind, Post, placeDesc_run]
  generalize hchain : (w.place vq reqGpa reqLen false true).place vq respGpa respLen true false = v
  have hv : w.placeChain vq [⟨reqGpa, reqLen, false⟩, ⟨respGpa, respLen, true⟩] = v := hchain
  obtain ⟨es, hack, hes⟩ := ackInterrupt_run
    (((v.note (.submit vq req)).emit (notifyEvent vq)).emit .flushEvents)
  have hrun : Post (do
      note (.submit vq req)
      mmioWritel rQueueNotify (UInt32.ofNat vq)
      flushEvents
      ackInterrupt
      return respGpa : GpuM UInt64) (fun _ w' => w' =
        { ((v.note (.submit vq req)).emit (notifyEvent vq)).emit .flushEvents with
          trace := es ++ .flushEvents :: notifyEvent vq :: v.trace }) v := hack
  change Outcome vq _ w₀ _
  change _ = _ at hrun
  rw [hrun]
  refine .published w _ (es ++ [.flushEvents]) hs (by rfl) (congrArg World.st hv).symm ?_ ?_ ?_
  · rw [hv, List.append_assoc]
    rfl
  · intro e he
    rcases List.mem_append.mp he with hold | hnew
    · exact hes e hold
    · rw [List.mem_singleton.mp hnew]
      exact ⟨rfl, rfl⟩
  · rw [hv]
    rfl

private theorem outcome_submitCmd (vq : Fin kMaxQueues) (req : List UInt8) (respLen : UInt32)
    (w : World kMaxQueues GpuDevice) :
    Outcome vq (CmdChain (UInt32.ofNat req.length) respLen) w
      ((submitCmd vq req respLen).run w).2 := by
  rw [submitCmd]
  change Post _ (fun _ => Outcome vq (CmdChain (UInt32.ofNat req.length) respLen) w) w
  apply Post.bind (Q := fun _ => Steps stagingActs w)
  · exact Relation.ReflTransGen.refl
  intro s w0 h0
  apply Post.ite
  · exact fun _ => .dropped h0
  intro _
  apply Post.ite
  · exact fun _ => .dropped h0
  intro _
  apply (allocGpa_staged h0 _).bind
  rintro reqGpa w1 ⟨h1, hreq⟩
  apply Post.ite
  · exact fun _ => .dropped h1
  intro hne
  apply Post.bind (Q := fun _ => Steps stagingActs w)
  · exact h1.trans (within_writeStart (by decide) _ req w1 (hreq hne))
  intro _ w2 h2
  apply (allocGpa_staged h2 _).bind
  rintro respGpa w3 ⟨h3, hresp⟩
  apply Post.ite
  · exact fun _ => .dropped h3
  intro hne
  apply Post.bind (Q := fun _ => Steps stagingActs w)
  · exact h3.trans (within_fillWith (by decide) zeroChunk respLen w3 (hresp hne))
  intro _ w4 h4
  exact outcome_publish vq req reqGpa respGpa _ respLen h4

theorem submitted_submitCmd (vq : Fin kMaxQueues) (req : List UInt8) (respLen : UInt32)
    (w : World kMaxQueues GpuDevice) :
    Submitted 2 vq (CmdChain (UInt32.ofNat req.length) respLen) w
      ((submitCmd vq req respLen).run w).2 where
  outcome := outcome_submitCmd vq req respLen w
  idle := guarded_not_ready 0 _
  few ps hps := few_of_map hps (by simp) (by simp)

end VirtioCrash.Gpu
