import Mathlib.Data.Multiset.AddSub
import Mathlib.Data.List.Basic

/-!
# Ledgers of handles

Handles are opened, used and closed. A history is settled when nothing in it uses or closes a handle
that is not held at that moment; what is held at the end is then known exactly. A handle number may
be given out again after it was closed.
-/

namespace Ledger

variable {α : Type} [DecidableEq α]

inductive Entry (α : Type) where
  | opened (x : α)
  | used (x : α)
  | closed (x : α)
  deriving DecidableEq

/-- What is held after an entry; `none` where the entry is about a handle that is not held. -/
def Entry.post (held : Multiset α) : Entry α → Option (Multiset α)
  | .opened x => some (x ::ₘ held)
  | .used x => if x ∈ held then some held else none
  | .closed x => if x ∈ held then some (held.erase x) else none

/-- What is held after a history. -/
def settle (es : List (Entry α)) (held : Multiset α) : Option (Multiset α) :=
  es.foldlM Entry.post held

@[simp] theorem settle_nil (held : Multiset α) : settle [] held = some held := rfl

theorem settle_append (es es' : List (Entry α)) (held : Multiset α) :
    settle (es ++ es') held = (settle es held).bind (settle es') :=
  List.foldlM_append

theorem settle_cons (e : Entry α) (es : List (Entry α)) (held : Multiset α) :
    settle (e :: es) held = (e.post held).bind (settle es) :=
  rfl

private theorem settle_opened (xs : List α) (held : Multiset α) :
    settle (xs.map .opened) held = some (xs + held) := by
  induction xs generalizing held with
  | nil => simp
  | cons x xs ih =>
      rw [List.map_cons, settle_cons, Entry.post, Option.bind_some, ih, Multiset.add_cons,
        ← Multiset.cons_add, Multiset.cons_coe]

private theorem settle_closed (xs : List α) (held : Multiset α) :
    settle (xs.map .closed) (xs + held) = some held := by
  induction xs with
  | nil => simp
  | cons x xs ih =>
      have hback : ((x :: xs : List α) + held : Multiset α).erase x = xs + held := by
        rw [← Multiset.cons_coe, Multiset.cons_add, Multiset.erase_cons_head]
      rw [List.map_cons, settle_cons, Entry.post, if_pos (by simp), hback, Option.bind_some, ih]

theorem settle_passed (xs : List α) (held : Multiset α) :
    settle (xs.map .opened ++ xs.map .closed) held = some held := by
  rw [settle_append, settle_opened, Option.bind_some, settle_closed]

/-- To close what is not held spoils the history for good. -/
theorem settle_absent {x : α} {held : Multiset α} (hx : x ∉ held) (es : List (Entry α)) :
    settle (.closed x :: es) held = none := by
  rw [settle_cons, Entry.post, if_neg hx, Option.bind_none]

theorem settle_used {x : α} {held : Multiset α} (hx : x ∈ held) (es : List (Entry α)) :
    settle (.used x :: es) held = settle es held := by
  rw [settle_cons, Entry.post, if_pos hx, Option.bind_some]

end Ledger
