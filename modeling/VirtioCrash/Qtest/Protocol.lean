import VirtioCrash.Lib.Bytes
import VirtioCrash.Qtest.Session

/-!
# The server's side of the qtest protocol

Which lines are requests, what each of them does to the machine and how its reply reads. The client
does not occur in it: a request is any spelling of its numbers and bytes that the protocol allows,
and so is a reply.
-/

namespace VirtioCrash.Qtest

open TextNumber Bytes

inductive Width where
  | byte
  | word
  | long
  | quad
  deriving DecidableEq

def Width.bytes : Width → Nat
  | .byte => 1
  | .word => 2
  | .long => 4
  | .quad => 8

/-- The conversion of an argument or of a result to the type of the function. -/
def Width.cut (w : Width) (v : Nat) : Nat := v % 256 ^ w.bytes

/-- Ports are no wider than 32 bits. -/
abbrev PortWidth := { w : Width // w ≠ .quad }

/-- What the calls are for: the ports and the address space, where reads may have effects too. -/
structure Machine (M : Type) where
  portOut : Width → UInt16 → Nat → M → M
  portIn : Width → UInt16 → M → Nat × M
  spaceWrite : UInt64 → List UInt8 → M → M
  spaceRead : UInt64 → Nat → M → List UInt8 × M
  portIn_lt : ∀ w addr m, (portIn w addr m).1 < 256 ^ w.bytes
  spaceRead_length : ∀ addr size m, (spaceRead addr size m).1.length = size
  spaceRead_zero : ∀ addr m, spaceRead addr 0 m = ([], m)
  spaceWrite_nil : ∀ addr m, spaceWrite addr [] m = m

variable {M : Type}

inductive Request where
  | out (w : PortWidth) (addr value : Nat)
  | inp (w : PortWidth) (addr : Nat)
  | write (w : Width) (addr value : Nat)
  | read (w : Width) (addr : Nat)
  | memread (addr len : Nat)
  | memwrite (addr : Nat) (data : List UInt8)
  | memset (addr len patt : Nat)
  | b64read (addr len : Nat)
  | b64write (addr : Nat) (data : List UInt8)

inductive Reply where
  | done
  | num (n : Nat)
  | hexBytes (bs : List UInt8)
  | base64 (bs : List UInt8)

/-- What a request does on a machine that stores words with the low byte first. -/
def perform (mach : Machine M) : Request → M → Reply × M
  | .out w addr value, m => (.done, mach.portOut w (UInt16.ofNat addr) (w.1.cut value) m)
  | .inp w addr, m =>
      let (v, m) := mach.portIn w (UInt16.ofNat addr) m
      (.num v, m)
  | .write w addr value, m =>
      (.done, mach.spaceWrite (UInt64.ofNat addr) (leBytes w.bytes value) m)
  | .read w addr, m =>
      let (bs, m) := mach.spaceRead (UInt64.ofNat addr) w.bytes m
      (.num (ofLe bs), m)
  | .memread addr len, m =>
      let (bs, m) := mach.spaceRead (UInt64.ofNat addr) len m
      (.hexBytes bs, m)
  | .memwrite addr data, m => (.done, mach.spaceWrite (UInt64.ofNat addr) data m)
  | .memset addr len patt, m =>
      (.done, mach.spaceWrite (UInt64.ofNat addr) (List.replicate len (UInt8.ofNat patt)) m)
  | .b64read addr len, m =>
      let (bs, m) := mach.spaceRead (UInt64.ofNat addr) len m
      (.base64 bs, m)
  | .b64write addr data, m => (.done, mach.spaceWrite (UInt64.ofNat addr) data m)

/-- A number of 64 bits, in decimal or behind `0x`. -/
inductive Numeral : List Char → Nat → Prop
  | decimal (n : Nat) (h : n < 2 ^ 64) : Numeral (Nat.toDigits 10 n) n
  | hex (zeros n : Nat) (h : n < 2 ^ 64) :
      Numeral ('0' :: 'x' :: (List.replicate zeros '0' ++ Nat.toDigits 16 n)) n

/-- Two digits a byte, the upper one first. -/
inductive HexPairs : List Char → List UInt8 → Prop
  | nil : HexPairs [] []
  | cons (hi lo : Fin 16) {cs : List Char} {bs : List UInt8} (h : HexPairs cs bs) :
      HexPairs (Nat.digitChar hi :: Nat.digitChar lo :: cs)
        (UInt8.ofNat (16 * hi + lo) :: bs)

/-- `g_base64_encode` and `g_base64_decode_inplace`. -/
structure GBase64 where
  encode : List UInt8 → List Char
  decode : List Char → List UInt8
  decode_encode : ∀ bs, decode (encode bs) = bs
  plain : ∀ bs, PlainWord (encode bs)
  ne_nil : ∀ bs, bs ≠ [] → encode bs ≠ []

/-- The first words of the lines about ports and about words of memory. -/
def outVerb : PortWidth → List Char
  | ⟨.byte, _⟩ => "outb".toList
  | ⟨.word, _⟩ => "outw".toList
  | ⟨.long, _⟩ => "outl".toList
  | ⟨.quad, h⟩ => absurd rfl h

def inVerb : PortWidth → List Char
  | ⟨.byte, _⟩ => "inb".toList
  | ⟨.word, _⟩ => "inw".toList
  | ⟨.long, _⟩ => "inl".toList
  | ⟨.quad, h⟩ => absurd rfl h

def writeVerb : Width → List Char
  | .byte => "writeb".toList
  | .word => "writew".toList
  | .long => "writel".toList
  | .quad => "writeq".toList

def readVerb : Width → List Char
  | .byte => "readb".toList
  | .word => "readw".toList
  | .long => "readl".toList
  | .quad => "readq".toList

/-- The words of a request; what is read or stored in one piece has at least one byte. -/
inductive Spells (b64 : GBase64) : Request → List (List Char) → Prop
  | out {w addr value a v} (hport : addr < 2 ^ 16) (ha : Numeral a addr) (hv : Numeral v value) :
      Spells b64 (.out w addr value) [outVerb w, a, v]
  | inp {w addr a} (hport : addr < 2 ^ 16) (ha : Numeral a addr) :
      Spells b64 (.inp w addr) [inVerb w, a]
  | write {w addr value a v} (ha : Numeral a addr) (hv : Numeral v value) :
      Spells b64 (.write w addr value) [writeVerb w, a, v]
  | read {w addr a} (ha : Numeral a addr) : Spells b64 (.read w addr) [readVerb w, a]
  | memread {addr len a l} (hlen : 0 < len) (ha : Numeral a addr) (hl : Numeral l len) :
      Spells b64 (.memread addr len) ["read".toList, a, l]
  | memwrite {addr data a l cs} (hdata : data ≠ []) (ha : Numeral a addr)
      (hl : Numeral l data.length) (hcs : HexPairs cs data) :
      Spells b64 (.memwrite addr data) ["write".toList, a, l, '0' :: 'x' :: cs]
  | memset {addr len patt a l p} (hpatt : patt < 256) (ha : Numeral a addr) (hl : Numeral l len)
      (hp : Numeral p patt) : Spells b64 (.memset addr len patt) ["memset".toList, a, l, p]
  | b64read {addr len a l} (hlen : 0 < len) (ha : Numeral a addr) (hl : Numeral l len) :
      Spells b64 (.b64read addr len) ["b64read".toList, a, l]
  | b64write {addr data a l} (hdata : data ≠ []) (ha : Numeral a addr)
      (hl : Numeral l data.length) :
      Spells b64 (.b64write addr data) ["b64write".toList, a, l, b64.encode data]

/-- The words behind the `OK` of a reply. -/
inductive Replies (b64 : GBase64) : Reply → List (List Char) → Prop
  | done : Replies b64 .done []
  | num {n w} (hw : Numeral w n) : Replies b64 (.num n) [w]
  | hexBytes {bs cs} (hcs : HexPairs cs bs) : Replies b64 (.hexBytes bs) ['0' :: 'x' :: cs]
  | base64 (bs : List UInt8) : Replies b64 (.base64 bs) [b64.encode bs]

/-- A server with a machine: it takes text in and sends texts before it returns. -/
structure Server (S M : Type) where
  receive : S → List Char → S × List (List Char)
  machine : S → M
  withMachine : S → M → S
  machine_withMachine : ∀ s m, machine (withMachine s m) = m

variable {S : Type}

/-- Several pieces of text, one after another. -/
def Server.receiveAll (sv : Server S M) : List (List Char) → S → S × List (List Char)
  | [], s => (s, [])
  | piece :: pieces, s =>
      let (s, texts) := sv.receive s piece
      let (s, more) := sv.receiveAll pieces s
      (s, texts ++ more)

/-- The server carries out every request, however its line is spelled and wherever it is cut, and
replies to it, possibly behind lines about interrupts. -/
structure Server.Serves (sv : Server S M) (mach : Machine M) (b64 : GBase64) (idle : S → Prop) :
    Prop where
  answers : ∀ req words, Spells b64 req words → ∀ pieces : List (List Char),
    pieces.flatten = lineText words → [] ∉ pieces → ∀ s, idle s →
      idle (sv.receiveAll pieces s).1 ∧
        sv.machine (sv.receiveAll pieces s).1 = (perform mach req (sv.machine s)).2 ∧
        ∃ irqs args, Replies b64 (perform mach req (sv.machine s)).1 args ∧
          (sv.receiveAll pieces s).2.flatten = Response.text ⟨irqs, args⟩

theorem plainWord_of_mem {w : List Char}
    (h : ∀ c ∈ w, c ≠ ' ' ∧ c ≠ '\n' ∧ c ≠ '\x00') : PlainWord w :=
  ⟨fun hc => (h _ hc).1 rfl, fun hc => (h _ hc).2.1 rfl, fun hc => (h _ hc).2.2 rfl⟩

private theorem digitChar_plain {d : Nat} (h : d < 16) :
    Nat.digitChar d ≠ ' ' ∧ Nat.digitChar d ≠ '\n' ∧ Nat.digitChar d ≠ '\x00' := by
  have hall : ∀ k : Fin 16,
      Nat.digitChar k ≠ ' ' ∧ Nat.digitChar k ≠ '\n' ∧ Nat.digitChar k ≠ '\x00' := by decide
  exact hall ⟨d, h⟩

theorem plainWord_hex {w : List Char} (h : PlainWord w) : PlainWord ('0' :: 'x' :: w) := by
  simpa [PlainWord] using h

theorem Numeral.plain {w : List Char} {n : Nat} (h : Numeral w n) : PlainWord w := by
  cases h with
  | decimal => exact plainWord_decimal n
  | hex zeros =>
      apply plainWord_hex
      apply plainWord_of_mem
      intro c hc
      rcases List.mem_append.mp hc with hc | hc
      · rw [List.eq_of_mem_replicate hc]
        decide
      · obtain ⟨d, hd, rfl⟩ := mem_toDigits (by decide) hc
        exact digitChar_plain hd

theorem HexPairs.plain {cs : List Char} {bs : List UInt8} (h : HexPairs cs bs) : PlainWord cs := by
  apply plainWord_of_mem
  induction h with
  | nil => simp
  | cons hi lo h ih =>
      intro c hc
      rcases List.mem_cons.mp hc with rfl | hc
      · exact digitChar_plain hi.isLt
      · rcases List.mem_cons.mp hc with rfl | hc
        · exact digitChar_plain lo.isLt
        · exact ih c hc

theorem Replies.plain {b64 : GBase64} {reply : Reply} {args : List (List Char)}
    (h : Replies b64 reply args) : ∀ w ∈ args, PlainWord w := by
  cases h with
  | done => simp
  | num hw => exact List.forall_mem_singleton.mpr hw.plain
  | hexBytes hcs => exact List.forall_mem_singleton.mpr (plainWord_hex hcs.plain)
  | base64 bs => exact List.forall_mem_singleton.mpr (b64.plain bs)

theorem perform_num {mach : Machine M} {req : Request} {m : M} {n : Nat}
    (h : (perform mach req m).1 = .num n) : n < 2 ^ 64 := by
  cases req with
  | inp w addr =>
      cases h
      exact lt_of_lt_of_le (mach.portIn_lt w _ m) (by cases w.1 <;> decide)
  | read w addr =>
      cases h
      have hlt := ofLe_lt (mach.spaceRead (UInt64.ofNat addr) w.bytes m).1
      rw [mach.spaceRead_length] at hlt
      exact lt_of_lt_of_le hlt (by cases w <;> decide)
  | _ => cases h

end VirtioCrash.Qtest
