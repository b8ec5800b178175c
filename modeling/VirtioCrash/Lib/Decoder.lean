import VirtioCrash.Lib.Bytes

/-!
# Decoders

A decoder reads a value from the front of a byte string and leaves the rest. `Decodes d bs a` says
that `d` reads exactly `bs` as `a`, whatever follows; its rules follow the decoder's text. `Uses`
bounds from the other side how many bytes a decoder can have read.
-/

namespace Bytes

abbrev Decoder (α : Type) := StateT (List UInt8) Option α

namespace Decoder

variable {α β : Type}

/-- The next `k` bytes. -/
def bytes (k : Nat) : Decoder (List UInt8) := fun bs =>
  if k ≤ bs.length then some (bs.take k, bs.drop k) else none

/-- The next `k` bytes as a little-endian number. -/
def le (k : Nat) : Decoder Nat := do
  let bs ← bytes k
  return ofLe bs

/-- `d`, `k` times. -/
def many (d : Decoder α) : Nat → Decoder (List α)
  | 0 => pure []
  | k + 1 => do
      let a ← d
      let as ← many d k
      return a :: as

/-- Little-endian numbers of these widths. -/
def fields : List Nat → Decoder (List Nat)
  | [] => pure []
  | k :: ks => do
      let v ← le k
      let vs ← fields ks
      return v :: vs

/-- The value of a byte string that `d` reads with nothing left over. -/
def whole (d : Decoder α) (bs : List UInt8) : Option α :=
  match d.run bs with
  | some (a, []) => some a
  | _ => none

/-- A byte string split into records of `size` bytes, if no part of one is left over. -/
def records (d : Decoder α) (size : Nat) (bs : List UInt8) : Option (List α) :=
  (d.many (bs.length / size)).whole bs

/-- `d` reads `bs` as `a`, whatever follows. -/
def Decodes (d : Decoder α) (bs : List UInt8) (a : α) : Prop :=
  ∀ rest, d.run (bs ++ rest) = some (a, rest)

theorem Decodes.pure (a : α) : Decodes (Pure.pure a) [] a :=
  fun _ => rfl

theorem Decodes.bind {d : Decoder α} {f : α → Decoder β} {bs bs' : List UInt8} {a : α} {b : β}
    (hd : Decodes d bs a) (hf : Decodes (f a) bs' b) : Decodes (d >>= f) (bs ++ bs') b := by
  intro rest
  rw [StateT.run_bind, List.append_assoc, hd]
  exact hf rest

theorem Decodes.map {d : Decoder α} {bs : List UInt8} {a : α} (f : α → β) (hd : Decodes d bs a) :
    Decodes (d >>= fun a => Pure.pure (f a)) bs (f a) := by
  have h := Decodes.bind (f := fun a => Pure.pure (f a)) hd (Decodes.pure (f a))
  rwa [List.append_nil] at h

theorem Decodes.bytes (bs : List UInt8) : Decodes (Decoder.bytes bs.length) bs bs := by
  intro rest
  change (if bs.length ≤ (bs ++ rest).length then _ else _) = _
  rw [if_pos (by simp), List.take_left, List.drop_left]

theorem Decodes.bytes_of_length {bs : List UInt8} {k : Nat} (h : bs.length = k) :
    Decodes (Decoder.bytes k) bs bs :=
  h ▸ Decodes.bytes bs

theorem Decodes.le {bs : List UInt8} {k : Nat} (h : bs.length = k) :
    Decodes (Decoder.le k) bs (ofLe bs) :=
  (Decodes.bytes_of_length h).map ofLe

theorem Decodes.le16 (v : UInt16) : Decodes (Decoder.le 2) (le16 v) v.toNat := by
  have h := Decodes.le (le16_length v)
  rwa [ofLe_le16] at h

theorem Decodes.le32 (v : UInt32) : Decodes (Decoder.le 4) (le32 v) v.toNat := by
  have h := Decodes.le (le32_length v)
  rwa [ofLe_le32] at h

theorem Decodes.le64 (v : UInt64) : Decodes (Decoder.le 8) (le64 v) v.toNat := by
  have h := Decodes.le (le64_length v)
  rwa [ofLe_le64] at h

/-- A record that was written field by field. -/
theorem Decodes.fields (parts : List (List UInt8)) :
    Decodes (Decoder.fields (parts.map List.length)) parts.flatten (parts.map ofLe) := by
  induction parts with
  | nil => exact Decodes.pure []
  | cons part parts ih =>
      rw [List.flatten_cons]
      exact (Decodes.le rfl).bind (ih.map (ofLe part :: ·))

theorem Decodes.many {d : Decoder α} {enc : β → List UInt8} {f : β → α} {bs : List β}
    (hd : ∀ b ∈ bs, Decodes d (enc b) (f b)) :
    Decodes (d.many bs.length) (bs.flatMap enc) (bs.map f) := by
  induction bs with
  | nil => exact Decodes.pure []
  | cons b bs ih =>
      have hrest := ih fun b' hb' => hd b' (List.mem_cons_of_mem b hb')
      rw [List.flatMap_cons]
      exact (hd b List.mem_cons_self).bind (hrest.map (f b :: ·))

theorem Decodes.chunks {size k : Nat} {bs : List UInt8} (h : bs.length = size * k) :
    ∃ as, Decodes ((Decoder.bytes size).many k) bs as ∧ as.length = k ∧ as.flatten = bs := by
  induction k generalizing bs with
  | zero =>
      rw [Nat.mul_zero, List.length_eq_zero_iff] at h
      subst h
      exact ⟨[], Decodes.pure [], rfl, rfl⟩
  | succ k ih =>
      rw [Nat.mul_succ] at h
      have hdrop : (bs.drop size).length = size * k := by
        rw [List.length_drop]
        omega
      obtain ⟨as, has, hlen, hflat⟩ := ih hdrop
      have hfirst : (bs.take size).length = size := by
        rw [List.length_take]
        omega
      refine ⟨bs.take size :: as, ?_, by rw [List.length_cons, hlen], ?_⟩
      · have hall := (Decodes.bytes_of_length hfirst).bind
          (f := fun a => Decoder.many (Decoder.bytes size) k >>= fun as => Pure.pure (a :: as))
          (has.map (bs.take size :: ·))
        rwa [List.take_append_drop] at hall
      · rw [List.flatten_cons, hflat, List.take_append_drop]

theorem Decodes.whole {d : Decoder α} {bs : List UInt8} {a : α} (hd : Decodes d bs a) :
    d.whole bs = some a := by
  have h := hd []
  rw [List.append_nil] at h
  rw [Decoder.whole, h]

theorem Decodes.records {d : Decoder α} {enc : β → List UInt8} {f : β → α} {size : Nat}
    (hsize : 0 < size) (hlen : ∀ b, (enc b).length = size) (hd : ∀ b, Decodes d (enc b) (f b))
    (bs : List β) : d.records size (bs.flatMap enc) = some (bs.map f) := by
  have htotal : (bs.flatMap enc).length = bs.length * size := by
    simp [List.length_flatMap, hlen]
  have hcount : (bs.flatMap enc).length / size = bs.length := by
    rw [htotal, Nat.mul_div_cancel _ hsize]
  rw [Decoder.records, hcount]
  exact (Decodes.many fun b _ => hd b).whole

/-- Whenever `d` reads `k` bytes as `a`, they satisfy `P`. -/
def Uses (d : Decoder α) (P : α → Nat → Prop) : Prop :=
  ∀ bs a rest, d.run bs = some (a, rest) → ∃ k, bs.length = k + rest.length ∧ P a k

theorem Uses.mono {d : Decoder α} {P Q : α → Nat → Prop} (hd : Uses d P)
    (h : ∀ a k, P a k → Q a k) : Uses d Q := by
  intro bs a rest hrun
  obtain ⟨k, hk, hP⟩ := hd bs a rest hrun
  exact ⟨k, hk, h a k hP⟩

theorem Uses.pure (a : α) : Uses (Pure.pure a) fun b k => b = a ∧ k = 0 := by
  intro bs b rest hrun
  cases hrun
  exact ⟨0, by simp, rfl, rfl⟩

theorem Uses.bind {d : Decoder α} {f : α → Decoder β} {P : α → Nat → Prop}
    {Q : α → β → Nat → Prop} (hd : Uses d P) (hf : ∀ a, Uses (f a) (Q a)) :
    Uses (d >>= f) fun b k => ∃ a j l, P a j ∧ Q a b l ∧ k = j + l := by
  intro bs b rest hrun
  rw [StateT.run_bind] at hrun
  rcases hfirst : d.run bs with _ | ⟨a, mid⟩
  · rw [hfirst] at hrun
    cases hrun
  · rw [hfirst] at hrun
    obtain ⟨j, hj, hP⟩ := hd bs a mid hfirst
    obtain ⟨l, hl, hQ⟩ := hf a mid b rest hrun
    exact ⟨j + l, by omega, a, j, l, hP, hQ, rfl⟩

theorem Uses.bytes (k : Nat) : Uses (Decoder.bytes k) fun a j => a.length = k ∧ j = k := by
  intro bs a rest hrun
  change (if k ≤ bs.length then some (bs.take k, bs.drop k) else none) = some (a, rest) at hrun
  split at hrun
  · cases hrun
    exact ⟨k, by simp; omega, by simp; omega, rfl⟩
  · cases hrun

theorem Uses.le (k : Nat) : Uses (Decoder.le k) fun _ j => j = k := by
  apply ((Uses.bytes k).bind fun bs => Uses.pure (ofLe bs)).mono
  rintro a j ⟨bs, i, l, ⟨-, rfl⟩, ⟨-, rfl⟩, rfl⟩
  rfl

theorem Uses.fields (ks : List Nat) : Uses (Decoder.fields ks) fun _ j => j = ks.sum := by
  induction ks with
  | nil =>
      apply (Uses.pure ([] : List Nat)).mono
      rintro vs j ⟨-, rfl⟩
      rfl
  | cons k ks ih =>
      apply ((Uses.le k).bind fun v => ih.bind fun vs => Uses.pure (v :: vs)).mono
      rintro vs j ⟨v, i, l, rfl, ⟨vs, m, r, rfl, ⟨-, rfl⟩, rfl⟩, rfl⟩
      rw [List.sum_cons]
      rfl

theorem Uses.many {d : Decoder α} {size : Nat} (hd : Uses d fun _ j => j = size) (k : Nat) :
    Uses (d.many k) fun as j => as.length = k ∧ j = size * k := by
  induction k with
  | zero =>
      apply (Uses.pure ([] : List α)).mono
      rintro as j ⟨rfl, rfl⟩
      exact ⟨rfl, rfl⟩
  | succ k ih =>
      apply (hd.bind fun a => ih.bind fun as => Uses.pure (a :: as)).mono
      rintro bs j ⟨a, i, l, rfl, ⟨as, m, r, ⟨hlen, rfl⟩, ⟨rfl, rfl⟩, rfl⟩, rfl⟩
      refine ⟨by simp [hlen], ?_⟩
      rw [Nat.mul_succ]
      omega

theorem Uses.whole {d : Decoder α} {P : α → Nat → Prop} (hd : Uses d P) {bs : List UInt8} {a : α}
    (h : d.whole bs = some a) : P a bs.length := by
  rw [Decoder.whole] at h
  split at h
  · rename_i b hrun
    cases h
    obtain ⟨k, hk, hP⟩ := hd bs a [] hrun
    rw [List.length_nil, Nat.add_zero] at hk
    rwa [hk]
  · cases h

end Decoder

end Bytes
