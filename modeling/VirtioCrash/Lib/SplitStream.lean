import Mathlib.Data.PNat.Defs
import Mathlib.Data.List.Basic

/-!
# Streams read in pieces

The receiving end of a byte stream. A read asks for some bytes and gets a non-empty prefix of what
is left, of at most that many bytes; where the stream is split is up to the network. `loop` runs the
body of a receive loop until it breaks.
-/

namespace SplitStream

variable {α σ : Type}

/-- How much the network is willing to deliver to each read. -/
abbrev Split := Nat → ℕ+

structure Conn (α : Type) where
  unread : List α
  reads : Nat

/-- Ask for `k` elements. -/
def recv (cut : Split) (k : Nat) (c : Conn α) : List α × Conn α :=
  (c.unread.take (min k (cut c.reads)), ⟨c.unread.drop (min k (cut c.reads)), c.reads + 1⟩)

theorem recv_length (cut : Split) (k : Nat) (c : Conn α) :
    (recv cut k c).1.length = min (min k (cut c.reads)) c.unread.length := by
  rw [recv, List.length_take]

theorem recv_append (cut : Split) (k : Nat) (c : Conn α) :
    (recv cut k c).1 ++ (recv cut k c).2.unread = c.unread := by
  rw [recv, List.take_append_drop]

theorem recv_length_add (cut : Split) (k : Nat) (c : Conn α) :
    (recv cut k c).1.length + (recv cut k c).2.unread.length = c.unread.length := by
  rw [← List.length_append, recv_append]

theorem recv_whole (cut : Split) (c : Conn α) (xs rest : List α) (hun : c.unread = xs ++ rest)
    (hcut : xs.length ≤ cut c.reads) :
    recv cut xs.length c = (xs, ⟨rest, c.reads + 1⟩) := by
  rw [recv, Nat.min_eq_left hcut, hun, List.take_left, List.drop_left]

/-- Passes of a loop body until it breaks, at most as many as the fuel. -/
def loop (body : σ → Option σ) : Nat → σ → σ
  | 0, s => s
  | fuel + 1, s =>
      match body s with
      | none => s
      | some t => loop body fuel t

theorem loop_break {body : σ → Option σ} {s : σ} (h : body s = none) (fuel : Nat) :
    loop body fuel s = s := by
  cases fuel with
  | zero => rfl
  | succ fuel => simp [loop, h]

theorem loop_pass {body : σ → Option σ} {s t : σ} (h : body s = some t) (fuel : Nat) :
    loop body (fuel + 1) s = loop body fuel t := by
  simp [loop, h]

/-- A body that consumes something in every pass breaks before the fuel runs out. -/
theorem loop_done {body : σ → Option σ} (left : σ → Nat)
    (hpass : ∀ s t, body s = some t → left t < left s) (fuel : Nat) (s : σ)
    (hfuel : left s < fuel) : body (loop body fuel s) = none := by
  induction fuel generalizing s with
  | zero => exact absurd hfuel (Nat.not_lt_zero _)
  | succ fuel ih =>
      rcases h : body s with _ | t
      · rw [loop_break h]
        exact h
      · rw [loop_pass h]
        have hlt := hpass s t h
        exact ih t (by omega)

/-- What each pass appends to an output is never taken back. -/
theorem loop_prefix {β : Type} {body : σ → Option σ} (out : σ → List β)
    (hpass : ∀ s t, body s = some t → out s <+: out t) (fuel : Nat) (s : σ) :
    out s <+: out (loop body fuel s) := by
  induction fuel generalizing s with
  | zero => exact List.prefix_rfl
  | succ fuel ih =>
      rcases h : body s with _ | t
      · simp only [loop_break h, List.prefix_rfl]
      · rw [loop_pass h]
        exact (hpass s t h).trans (ih t)

end SplitStream
