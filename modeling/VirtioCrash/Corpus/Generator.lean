import VirtioCrash.Lib.Draws
import VirtioCrash.Lib.TextFormat

/-!
# The corpus generators

The generators in `scripts/oss-fuzz/` build base seeds, each a file name, a comment and the lines of
a text-format program, and fill the corpus up with variations of them. All but the blk generator
have `variation` and the fill loop; they differ in how many lines the shuffle leaves alone and in
the comment of a variation.
-/

namespace VirtioCrash.Corpus

open Draws

/-- What a `seed_*` builder returns. -/
structure Seed where
  name : String
  comment : String
  ops : List String

/-- `ops {..}`. -/
def opsLine (body : String) : String := "ops \x7b" ++ body ++ "\x7d"

/-- `ops_thread_b {..}`. -/
def opsThreadBLine (body : String) : String := "ops_thread_b \x7b" ++ body ++ "\x7d"

/-- `thread_b_iter: n`. -/
def threadBIterLine (n : Nat) : String := "thread_b_iter: " ++ toString n

def virtioFVersion1 : Int := 4294967296
def statusDriverOk : Int := 4

def opGetFeatures : String := opsLine " get_features \x7b\x7d "

def opSetFeatures (features : Int) : String :=
  opsLine (" set_features \x7b features: " ++ toString features ++ " \x7d ")

def opVqSetup (vqIdx size : Int) : String :=
  opsLine (" vq_setup \x7b vq_idx: " ++ toString vqIdx ++ " size: " ++ toString size ++ " \x7d ")

def opSetStatus (bits : Int) : String :=
  opsLine (" set_status \x7b bits: " ++ toString bits ++ " \x7d ")

def opVqKick (vqIdx : Nat) : String :=
  opsLine (" vq_kick \x7b vq_idx: " ++ toString vqIdx ++ " \x7d ")

def opVqWaitUsed (vqIdx : Nat) : String :=
  opsLine (" vq_wait_used \x7b vq_idx: " ++ toString vqIdx ++ " \x7d ")

def pyBool (b : Bool) : String := if b then "true" else "false"

/-- The message of `op_vq_add_desc` and `b_vq_add_desc`. -/
def vqAddDescBody (vqIdx bufId length : Nat) (deviceWritable chainNext : Bool)
    (exoticRegion : Nat) : String :=
  " vq_add_desc \x7b vq_idx: " ++ toString vqIdx ++ " buf_id: " ++ toString bufId ++ " len: " ++
    toString length ++ " device_writable: " ++ pyBool deviceWritable ++ " chain_next: " ++
    pyBool chainNext ++
    (if exoticRegion ≠ 0 then " exotic_region: " ++ toString exoticRegion else "") ++ " \x7d "

def opVqAddDesc (vqIdx bufId length : Nat) (deviceWritable chainNext : Bool)
    (exoticRegion : Nat) : String :=
  opsLine (vqAddDescBody vqIdx bufId length deviceWritable chainNext exoticRegion)

def bVqAddDesc (vqIdx bufId length : Nat) (deviceWritable chainNext : Bool)
    (exoticRegion : Nat) : String :=
  opsThreadBLine (vqAddDescBody vqIdx bufId length deviceWritable chainNext exoticRegion)

def bMmioCorrupt (offset value size : Nat) : String :=
  opsThreadBLine (" mmio_corrupt \x7b offset: " ++ toString offset ++ " value: " ++
    toString value ++ " size: " ++ toString size ++ " \x7d ")

/-- `DEFAULT_FEATURES` of the net generator. -/
def Net.defaultFeatures : Int :=
  ([32, 0, 5, 11, 12, 15, 16, 17, 18, 19, 21, 22, 23].foldl (fun bits k => bits ||| 1 <<< k) 0 :
    Nat)

/-- `prologue` of the net generator. -/
def Net.prologue (features numQpairs : Int) (haveCtrl : Bool) : List String :=
  [opGetFeatures, opSetFeatures features] ++
    (List.range (2 * numQpairs).toNat).map (fun q => opVqSetup (q : Int) 64) ++
    (if haveCtrl then [opVqSetup (2 * numQpairs) 64] else []) ++ [opSetStatus statusDriverOk]

/-- `prologue` of the console generator. -/
def Console.prologue : List String :=
  [opGetFeatures, opSetFeatures virtioFVersion1] ++
    (List.range 6).map (fun v => opVqSetup (v : Int) 64) ++ [opSetStatus statusDriverOk]

/-- `prologue` of the vsock generator. -/
def Vsock.prologue : List String :=
  [opGetFeatures, opSetFeatures virtioFVersion1, opVqSetup 0 64, opVqSetup 1 64, opVqSetup 2 64,
    opSetStatus statusDriverOk]

/-- The generators with a `variation`. -/
inductive Generator where
  | balloon
  | console
  | fs
  | gpu
  | input
  | net
  | scsi
  | snd
  | vsock
  deriving DecidableEq

/-- How many lines the shuffle of a generator leaves alone. -/
def Generator.headLen : Generator → Nat
  | balloon => 7
  | console => 8
  | fs => 6
  | gpu => 5
  | input => 5
  | net => 7
  | scsi => 6
  | snd => 7
  | vsock => 6

/-- What the comment of variation `idx` ends with. -/
def Generator.note (idx : Nat) : Generator → String
  | balloon | console | input => " -- v" ++ toString idx ++ "."
  | vsock => " -- variation " ++ toString idx ++ "."
  | fs | gpu | net | scsi | snd => " -- variation " ++ toString idx ++ " (auto-perturbed)."

inductive Strategy where
  | dup
  | drop
  | shuffleTail
  | repeatOne
  deriving DecidableEq

def strategies : List Strategy := [.dup, .drop, .shuffleTail, .repeatOne]

theorem strategies_length_pos : 0 < strategies.length := by decide

/-- The branches of `variation`, on a copy of the seed's lines. -/
def applyStrategy (g : Generator) (out : List String) (hlen : out.length ≥ 2) :
    Strategy → Random (List String)
  | .dup => do
      let i ← randrange 0 out.length (by omega)
      return out.insertIdx i (out.get ⟨i, i.2.2⟩)
  | .drop => do
      let i ← randrange 1 out.length (by omega)
      return out.eraseIdx i
  | .shuffleTail => do
      let headLen := min g.headLen out.length
      let tail := out.drop headLen
      if tail.isEmpty then return out
      let tail ← shuffle tail
      return out.take headLen ++ tail
  | .repeatOne => do
      let i ← randrange 0 out.length (by omega)
      let n ← randint 2 4 (by decide)
      return out.take i ++ List.replicate n (out.get ⟨i, i.2.2⟩) ++ out.drop (i + 1)

/-- What `variation` does to the lines of a seed. -/
def varyOps (g : Generator) (out : List String) : Random (List String) :=
  if hlen : out.length ≥ 2 then do
    let s ← choice strategies strategies_length_pos
    applyStrategy g out hlen s
  else return out

/-- `name.replace(".textpb", "_v%03d.textpb" % idx)`. -/
def variationName (name : String) (idx : Nat) : String :=
  String.ofList (TextFormat.replaceAll ".textpb".toList
    ("_v".toList ++ TextFormat.zeroPadded 3 idx ++ ".textpb".toList) name.toList)

def variation (g : Generator) (base : Seed) (idx : Nat) : Random Seed := do
  let out ← varyOps g base.ops
  return ⟨variationName base.name idx, base.comment ++ g.note idx, out⟩

/-- The base seed that variation `v` is made of. -/
def baseOf (base : List Seed) (hbase : 0 < base.length) (v : Nat) : Seed :=
  base.get ⟨(v - 1) % base.length, Nat.mod_lt _ hbase⟩

theorem baseOf_mem {base : List Seed} (hbase : 0 < base.length) (v : Nat) :
    baseOf base hbase v ∈ base :=
  List.get_mem base _

/-- The loop of `main` that appends variations; `v` is the number of the next one. -/
def fill (g : Generator) (base : List Seed) (hbase : 0 < base.length) (target v : Nat)
    (seeds : List Seed) : Random (List Seed) :=
  if seeds.length < target then do
    let seed ← variation g (baseOf base hbase v) v
    fill g base hbase target (v + 1) (seeds ++ [seed])
  else return seeds
termination_by target - seeds.length
decreasing_by
  rw [List.length_append, List.length_singleton]
  omega

/-- The seeds that `main` writes, for the value of its `--count` option if there is one. -/
def corpus (g : Generator) (base : List Seed) (hbase : 0 < base.length) (count : Option Nat) :
    Random (List Seed) :=
  let target := count.getD base.length
  fill g base hbase target 1 (base.take target)

end VirtioCrash.Corpus
