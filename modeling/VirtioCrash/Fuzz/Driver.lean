import Mathlib.Data.List.Nodup
import Mathlib.Data.List.Infix

/-!
# The fuzzing driver

`fuzz.c`: targets register themselves under a name, `LLVMFuzzerInitialize` picks one of them by the
name of the executable or by an argument, and `LLVMFuzzerTestOneInput` hands it the inputs. A whole
process runs the callbacks of the named target, each in its place, and nothing else.
-/

namespace VirtioCrash.Fuzz

variable {σ : Type}

/-- The members of a `FuzzTarget` that a run of the process uses, on the rest of the process. -/
structure FuzzTarget (σ : Type) where
  name : List Char
  getInitCmdline : σ → List Char
  preVmInit : Option (σ → σ)
  preFuzz : Option (σ → σ)
  fuzz : List UInt8 → σ → σ

/-- How a process ends that does not fuzz: `abort`, `exit` behind the usage, or a null target. -/
inductive Exit where
  | aborts
  | usage
  | crashes
  deriving DecidableEq

/-- The static variables, and the rest of the process. -/
structure Driver (σ : Type) where
  fuzzTargetList : Option (List (FuzzTarget σ))
  fuzzTarget : Option (FuzzTarget σ)
  preFuzzDone : Bool
  rest : σ

def fuzzAddTarget (target : FuzzTarget σ) (d : Driver σ) : Except Exit (Driver σ) :=
  let list := d.fuzzTargetList.getD []
  if list.any fun tmp => tmp.name = target.name then .error .aborts
  else .ok { d with fuzzTargetList := some (target :: list) }

def fuzzGetTarget (name : List Char) (d : Driver σ) : Except Exit (Option (FuzzTarget σ)) :=
  match d.fuzzTargetList with
  | none => .error .aborts
  | some list => .ok (list.find? fun tmp => tmp.name = name)

/-- The usage lists the targets, so there has to be a list. -/
def usage (d : Driver σ) : Exit :=
  match d.fuzzTargetList with
  | none => .aborts
  | some _ => .usage

/-- The part of a text from the first place where another one occurs. -/
def strstr (s sub : List Char) : Option (List Char) := s.tails.find? fun t => sub.isPrefixOf t

def kTargetMark : List Char := "-target-".toList

def kFuzzTargetOption : List Char := "--fuzz-target=".toList

/-- The option is looked for anywhere in the argument and skipped at its front. -/
def targetName (argv0 : List Char) (args : List (List Char)) : Option (List Char) :=
  match strstr argv0 kTargetMark with
  | some found => some (found.drop kTargetMark.length)
  | none =>
      match args with
      | arg :: _ =>
          if (strstr arg kFuzzTargetOption).isSome then some (arg.drop kFuzzTargetOption.length)
          else none
      | [] => none

/-- Whether `FUZZ_SERIALIZE_QTEST` and `QTEST_LOG` are set. -/
structure Environ where
  serializeQtest : Bool
  qtestLog : Bool

/-- What is behind the target's arguments. -/
def cmdlineTail (qtestLog : Bool) : List Char :=
  " ".toList ++ (if qtestLog then [] else "-qtest-log none".toList) ++ " -qtest /dev/null ".toList

/-- What the driver calls outside `fuzz.c`. -/
structure Callees (σ : Type) where
  fuzzQtestSetSerialize : Bool → σ → σ
  qtestSetup : σ → σ
  qemuInit : List Char → σ → σ

/-- `LLVMFuzzerInitialize`; `registered` are the targets in the order of their modules. -/
def fuzzerInitialize (callees : Callees σ) (registered : List (FuzzTarget σ)) (argv0 : List Char)
    (args : List (List Char)) (environ : Environ) (d : Driver σ) : Except Exit (Driver σ) := do
  let d ← registered.foldlM (fun d target => fuzzAddTarget target d) d
  match targetName argv0 args with
  | none => .error (usage d)
  | some name =>
      let d := { d with rest := callees.fuzzQtestSetSerialize environ.serializeQtest d.rest }
      match ← fuzzGetTarget name d with
      | none => .error (usage d)
      | some target =>
          let s := callees.qtestSetup d.rest
          let s := match target.preVmInit with
            | some f => f s
            | none => s
          let cmdLine := target.getInitCmdline s ++ cmdlineTail environ.qtestLog
          return { d with fuzzTarget := some target, rest := callees.qemuInit cmdLine s }

/-- `LLVMFuzzerTestOneInput` -/
def fuzzerTestOneInput (data : List UInt8) (d : Driver σ) : Except Exit (Driver σ) :=
  match d.fuzzTarget with
  | none => .error .crashes
  | some target =>
      let d := match d.preFuzzDone, target.preFuzz with
        | false, some f => { d with rest := f d.rest, preFuzzDone := true }
        | _, _ => d
      .ok { d with rest := target.fuzz data d.rest }

/-- A fuzzing process and the inputs libFuzzer gives it. -/
def process (callees : Callees σ) (registered : List (FuzzTarget σ)) (argv0 : List Char)
    (args : List (List Char)) (environ : Environ) (inputs : List (List UInt8)) (s : σ) :
    Except Exit σ := do
  let d ← fuzzerInitialize callees registered argv0 args environ ⟨none, none, false, s⟩
  let d ← inputs.foldlM (fun d data => fuzzerTestOneInput data d) d
  return d.rest

/-- The first place where `sub` occurs in `s`, with what is before and behind it. -/
structure FirstAt (sub s before behind : List Char) : Prop where
  split : s = before ++ (sub ++ behind)
  first : ∀ before' behind', s = before' ++ (sub ++ behind') → before.length ≤ before'.length

/-- The name a command line gives: what is behind the first `-target-` of the executable's name, or,
when that has none, what is behind the first 14 characters of an argument that has the option. -/
inductive Named (argv0 : List Char) : List (List Char) → List Char → Prop
  | executable {args : List (List Char)} {dir name : List Char}
      (hmark : FirstAt "-target-".toList argv0 dir name) : Named argv0 args name
  | argument {arg : List Char} {args : List (List Char)} (hno : ¬"-target-".toList <:+: argv0)
      (hopt : "--fuzz-target=".toList <:+: arg) : Named argv0 (arg :: args) (arg.drop 14)

/-- What a process does for one target, call by call. -/
def FuzzTarget.script (target : FuzzTarget σ) (callees : Callees σ) (environ : Environ)
    (inputs : List (List UInt8)) : List (σ → σ) :=
  [callees.fuzzQtestSetSerialize environ.serializeQtest, callees.qtestSetup] ++
    target.preVmInit.toList ++
    [fun s => callees.qemuInit (target.getInitCmdline s ++
      if environ.qtestLog then "  -qtest /dev/null ".toList
      else " -qtest-log none -qtest /dev/null ".toList) s] ++
    (if inputs = [] then [] else target.preFuzz.toList) ++ inputs.map target.fuzz

/-- One call after another. -/
def runScript (calls : List (σ → σ)) (s : σ) : σ := calls.foldl (fun s f => f s) s

/-- A callback that may be missing. -/
def optional (f : Option (σ → σ)) (s : σ) : σ := f.elim s fun f => f s

/-- One target, set up on its own. -/
def FuzzTarget.start (target : FuzzTarget σ) (callees : Callees σ) (environ : Environ) (s : σ) :
    σ :=
  let s := callees.qtestSetup (callees.fuzzQtestSetSerialize environ.serializeQtest s)
  let s := optional target.preVmInit s
  callees.qemuInit (target.getInitCmdline s ++ cmdlineTail environ.qtestLog) s

/-- If there are inputs, `pre_fuzz` comes before them. -/
def FuzzTarget.session (target : FuzzTarget σ) : List (List UInt8) → σ → σ
  | [], s => s
  | data :: inputs, s =>
      inputs.foldl (fun s data => target.fuzz data s) (target.fuzz data (optional target.preFuzz s))

/-- A process that does not fuzz says how it is used, if there are targets at all. -/
def noTarget (registered : List (FuzzTarget σ)) : Exit :=
  if registered = [] then .aborts else .usage

private theorem strstr_cons (c : Char) (s sub : List Char) :
    strstr (c :: s) sub = if sub <+: c :: s then some (c :: s) else strstr s sub := by
  rw [strstr, List.tails_cons, List.find?_cons]
  split
  · rename_i hfront
    rw [if_pos (List.isPrefixOf_iff_prefix.mp hfront)]
  · rename_i hfront
    rw [if_neg (fun h => absurd (List.isPrefixOf_iff_prefix.mpr h) (by rw [hfront]; decide))]
    rfl

private theorem strstr_cases (s sub : List Char) :
    (strstr s sub = none ∧ ¬sub <:+: s) ∨
      ∃ before behind, FirstAt sub s before behind ∧ strstr s sub = some (sub ++ behind) := by
  induction s with
  | nil =>
      rcases sub with _ | ⟨c, sub⟩
      · exact .inr ⟨[], [], ⟨rfl, fun _ _ _ => Nat.zero_le _⟩, rfl⟩
      · exact .inl ⟨rfl, fun h => List.cons_ne_nil c sub (List.infix_nil.mp h)⟩
  | cons c s ih =>
      rw [strstr_cons]
      by_cases hfront : sub <+: c :: s
      · rw [if_pos hfront]
        obtain ⟨behind, hbehind⟩ := hfront
        exact .inr ⟨[], behind, ⟨hbehind.symm, fun _ _ _ => Nat.zero_le _⟩, by rw [hbehind]⟩
      · rw [if_neg hfront]
        rcases ih with ⟨hnone, hno⟩ | ⟨before, behind, ⟨rfl, hfirst⟩, hsome⟩
        · refine .inl ⟨hnone, fun h => ?_⟩
          rcases List.infix_cons_iff.mp h with hp | hi
          · exact hfront hp
          · exact hno hi
        · refine .inr ⟨c :: before, behind, ⟨rfl, ?_⟩, hsome⟩
          rintro (_ | ⟨c', before'⟩) behind' heq
          · exact absurd ⟨behind', heq.symm⟩ hfront
          · exact Nat.succ_le_succ (hfirst before' behind' (List.cons.inj heq).2)

private theorem FirstAt.isInfix {sub s before behind : List Char}
    (h : FirstAt sub s before behind) : sub <:+: s :=
  ⟨before, behind, (List.append_assoc _ _ _).trans h.split.symm⟩

private theorem FirstAt.behind_eq {sub s before behind before' behind' : List Char}
    (h : FirstAt sub s before behind) (h' : FirstAt sub s before' behind') : behind = behind' := by
  have hlen : before.length = before'.length :=
    Nat.le_antisymm (h.first _ _ h'.split) (h'.first _ _ h.split)
  have heq := (List.append_inj (h.split.symm.trans h'.split) hlen).2
  exact List.append_cancel_left heq

/-- The driver finds the name the command line gives. -/
private theorem targetName_eq_some_iff {argv0 : List Char} {args : List (List Char)}
    {name : List Char} : targetName argv0 args = some name ↔ Named argv0 args name := by
  rcases strstr_cases argv0 kTargetMark with ⟨hnone, hno⟩ | ⟨dir, found, hfound, hsome⟩
  · simp only [targetName, hnone]
    rcases args with _ | ⟨arg, args⟩
    · refine ⟨nofun, ?_⟩
      rintro ⟨hmark⟩
      exact absurd hmark.isInfix hno
    · dsimp only
      constructor
      · intro h
        rcases strstr_cases arg kFuzzTargetOption with ⟨hopt, -⟩ | ⟨_, _, hopt, hsome⟩
        · rw [hopt] at h
          cases h
        · rw [hsome] at h
          cases h
          exact .argument hno hopt.isInfix
      · rintro (hmark | ⟨-, hopt⟩)
        · exact absurd hmark.isInfix hno
        · rcases strstr_cases arg kFuzzTargetOption with ⟨-, hno'⟩ | ⟨_, _, -, hsome⟩
          · exact absurd hopt hno'
          · rw [hsome]
            rfl
  · have hname : targetName argv0 args = some found := by
      simp only [targetName, hsome, List.drop_left]
    rw [hname, Option.some.injEq]
    constructor
    · rintro rfl
      exact .executable hfound
    · rintro (hmark | ⟨hno, -⟩)
      · exact hfound.behind_eq hmark
      · exact absurd hfound.isInfix hno

/-- The list of targets after some more were added at its head. -/
def listed (registered : List (FuzzTarget σ)) (list : Option (List (FuzzTarget σ))) :
    Option (List (FuzzTarget σ)) :=
  if registered = [] then list else some (registered.reverse ++ list.getD [])

def DistinctNames (list : List (FuzzTarget σ)) : Prop := (list.map FuzzTarget.name).Nodup

instance (list : List (FuzzTarget σ)) : Decidable (DistinctNames list) :=
  inferInstanceAs (Decidable (List.Nodup _))

private theorem any_name_iff (list : List (FuzzTarget σ)) (name : List Char) :
    (list.any fun tmp => tmp.name = name) = true ↔ name ∈ list.map FuzzTarget.name := by
  simp only [List.any_eq_true, decide_eq_true_eq, List.mem_map]

private theorem foldlM_fuzzAddTarget (registered : List (FuzzTarget σ)) (d : Driver σ)
    (hd : DistinctNames (d.fuzzTargetList.getD [])) :
    registered.foldlM (fun d target => fuzzAddTarget target d) d =
      if DistinctNames (registered.reverse ++ d.fuzzTargetList.getD []) then
        .ok { d with fuzzTargetList := listed registered d.fuzzTargetList }
      else .error .aborts := by
  induction registered generalizing d with
  | nil =>
      rw [List.reverse_nil, List.nil_append, if_pos hd]
      rfl
  | cons target registered ih =>
      have hlist : (target :: registered).reverse ++ d.fuzzTargetList.getD [] =
          registered.reverse ++ target :: d.fuzzTargetList.getD [] := by
        rw [List.reverse_cons, List.append_assoc, List.singleton_append]
      rw [List.foldlM_cons, fuzzAddTarget, hlist]
      by_cases hused : target.name ∈ (d.fuzzTargetList.getD []).map FuzzTarget.name
      · rw [if_pos ((any_name_iff _ _).mpr hused), if_neg]
        · rfl
        · intro hnodup
          rw [DistinctNames, List.map_append, List.nodup_append, List.map_cons,
            List.nodup_cons] at hnodup
          exact hnodup.2.1.1 hused
      · have hnext : DistinctNames (target :: d.fuzzTargetList.getD []) :=
          List.nodup_cons.mpr ⟨hused, hd⟩
        rw [if_neg (fun h => hused ((any_name_iff _ _).mp h))]
        change (registered.foldlM (fun d target => fuzzAddTarget target d)
          { d with fuzzTargetList := some (target :: d.fuzzTargetList.getD []) }) = _
        rw [ih { d with fuzzTargetList := some (target :: d.fuzzTargetList.getD []) } hnext,
          listed, listed]
        rcases registered with _ | ⟨target', registered⟩
        · rfl
        · rw [if_neg (List.cons_ne_nil _ _), if_neg (List.cons_ne_nil _ _), hlist]
          rfl

private theorem find_reverse {list : List (FuzzTarget σ)} (hlist : DistinctNames list)
    (name : List Char) : (list.reverse.find? fun tmp => tmp.name = name) =
      list.find? fun tmp => tmp.name = name := by
  induction list with
  | nil => rfl
  | cons target list ih =>
      obtain ⟨hnew, hrest⟩ := List.nodup_cons.mp hlist
      rw [List.reverse_cons, List.find?_append, ih hrest]
      by_cases hname : target.name = name
      · have hnone : (list.find? fun tmp => tmp.name = name) = none := by
          rw [List.find?_eq_none]
          intro tmp htmp heq
          apply hnew
          rw [hname, ← of_decide_eq_true heq]
          exact List.mem_map_of_mem htmp
        rw [hnone, Option.none_or, List.find?_singleton,
          List.find?_cons_of_pos (by simpa using hname), if_pos (by simpa using hname)]
      · rw [List.find?_singleton, List.find?_cons_of_neg (by simpa using hname),
          if_neg (by simpa using hname), Option.or_none]

private theorem foldlM_fuzzerTestOneInput {target : FuzzTarget σ} (inputs : List (List UInt8))
    {d : Driver σ} (htarget : d.fuzzTarget = some target)
    (hdone : d.preFuzzDone = true ∨ target.preFuzz = none) :
    inputs.foldlM (fun d data => fuzzerTestOneInput data d) d =
      .ok { d with rest := inputs.foldl (fun s data => target.fuzz data s) d.rest } := by
  induction inputs generalizing d with
  | nil => rfl
  | cons data inputs ih =>
      have hone : fuzzerTestOneInput data d = .ok { d with rest := target.fuzz data d.rest } := by
        obtain ⟨list, _, done, rest⟩ := d
        cases htarget
        rcases hdone with rfl | hnone
        · rfl
        · simp only [fuzzerTestOneInput, hnone]
      rw [List.foldlM_cons, hone]
      exact ih htarget hdone

private theorem fuzzerTestOneInput_first {target : FuzzTarget σ} (data : List UInt8) {d : Driver σ}
    (htarget : d.fuzzTarget = some target) (hfirst : d.preFuzzDone = false) :
    fuzzerTestOneInput data d = .ok { d with
      preFuzzDone := target.preFuzz.isSome
      rest := target.fuzz data (optional target.preFuzz d.rest) } := by
  obtain ⟨list, _, _, rest⟩ := d
  cases htarget
  cases hfirst
  rcases hpre : target.preFuzz with _ | f
  · simp only [fuzzerTestOneInput, hpre]
    rfl
  · simp only [fuzzerTestOneInput, hpre]
    rfl

private theorem foldlM_fuzzerTestOneInput_first {target : FuzzTarget σ} (inputs : List (List UInt8))
    {d : Driver σ} (htarget : d.fuzzTarget = some target) (hfirst : d.preFuzzDone = false) :
    ∃ d', inputs.foldlM (fun d data => fuzzerTestOneInput data d) d = .ok d' ∧
      d'.rest = target.session inputs d.rest := by
  rcases inputs with _ | ⟨data, inputs⟩
  · exact ⟨d, rfl, rfl⟩
  · have hdone : target.preFuzz.isSome = true ∨ target.preFuzz = none := by
      cases target.preFuzz with
      | none => exact Or.inr rfl
      | some f => exact Or.inl rfl
    rw [List.foldlM_cons, fuzzerTestOneInput_first data htarget hfirst]
    exact ⟨_, foldlM_fuzzerTestOneInput inputs htarget hdone, rfl⟩

private theorem fuzzerInitialize_eq (callees : Callees σ) (registered : List (FuzzTarget σ))
    (argv0 : List Char) (args : List (List Char)) (environ : Environ) (s : σ) :
    fuzzerInitialize callees registered argv0 args environ ⟨none, none, false, s⟩ =
      if DistinctNames registered then
        match targetName argv0 args with
        | none => .error (noTarget registered)
        | some name =>
            match registered.find? fun target => target.name = name with
            | none => .error (noTarget registered)
            | some target =>
                .ok ⟨listed registered none, some target, false, target.start callees environ s⟩
      else .error .aborts := by
  have hadd := foldlM_fuzzAddTarget registered ⟨none, none, false, s⟩ List.nodup_nil
  have hnames : DistinctNames
      (registered.reverse ++ (none : Option (List (FuzzTarget σ))).getD []) ↔
        DistinctNames registered := by
    rw [Option.getD_none, List.append_nil, DistinctNames, List.map_reverse, List.nodup_reverse]
    rfl
  simp only [hnames] at hadd
  rw [fuzzerInitialize, hadd]
  by_cases hdistinct : DistinctNames registered
  · rw [if_pos hdistinct, if_pos hdistinct]
    rcases registered with _ | ⟨first, registered⟩
    · rcases targetName argv0 args with _ | name
      · rfl
      · rfl
    · rcases targetName argv0 args with _ | name
      · rfl
      · have hlist : listed (first :: registered) none = some (first :: registered).reverse := by
          rw [listed, if_neg (List.cons_ne_nil _ _), Option.getD_none, List.append_nil]
        have hget (s' : σ) :
            fuzzGetTarget name ⟨listed (first :: registered) none, none, false, s'⟩ =
              .ok ((first :: registered).find? fun target => target.name = name) := by
          rw [← find_reverse hdistinct, fuzzGetTarget, hlist]
        dsimp only [bind, Except.bind]
        rw [hget]
        rcases hfind : (first :: registered).find? fun target => target.name = name with _ | target
        · simp only [hfind]
          rfl
        · simp only [hfind]
          rcases hpre : target.preVmInit with _ | f
          · simp only [FuzzTarget.start, hpre]
            rfl
          · simp only [FuzzTarget.start, hpre]
            rfl
  · rw [if_neg hdistinct, if_neg hdistinct]
    rfl

private theorem process_cases (callees : Callees σ) (registered : List (FuzzTarget σ))
    (argv0 : List Char) (args : List (List Char)) (environ : Environ) (inputs : List (List UInt8))
    (s : σ) :
    process callees registered argv0 args environ inputs s =
      if DistinctNames registered then
        match targetName argv0 args with
        | none => .error (noTarget registered)
        | some name =>
            match registered.find? fun target => target.name = name with
            | none => .error (noTarget registered)
            | some target => .ok (target.session inputs (target.start callees environ s))
      else .error .aborts := by
  rw [process, fuzzerInitialize_eq]
  by_cases hdistinct : DistinctNames registered
  · rw [if_pos hdistinct, if_pos hdistinct]
    rcases targetName argv0 args with _ | name
    · rfl
    · rcases hfind : registered.find? fun target => target.name = name with _ | target
      · simp only [hfind]
        rfl
      · simp only [hfind]
        obtain ⟨d, hinputs, hrest⟩ := foldlM_fuzzerTestOneInput_first inputs
          (d := ⟨listed registered none, some target, false, target.start callees environ s⟩)
          rfl rfl
        rw [← hrest]
        change (inputs.foldlM (fun d data => fuzzerTestOneInput data d) _ >>= _) = _
        rw [hinputs]
        rfl
  · rw [if_neg hdistinct, if_neg hdistinct]
    rfl

private theorem runScript_append (calls more : List (σ → σ)) (s : σ) :
    runScript (calls ++ more) s = runScript more (runScript calls s) :=
  List.foldl_append

private theorem runScript_toList (f : Option (σ → σ)) (s : σ) :
    runScript f.toList s = optional f s := by
  cases f with
  | none => rfl
  | some f => rfl

private theorem runScript_inputs (target : FuzzTarget σ) (inputs : List (List UInt8)) (s : σ) :
    runScript (inputs.map target.fuzz) s = inputs.foldl (fun s data => target.fuzz data s) s :=
  List.foldl_map

private theorem cmdlineTail_eq (qtestLog : Bool) : cmdlineTail qtestLog =
    if qtestLog then "  -qtest /dev/null ".toList
    else " -qtest-log none -qtest /dev/null ".toList := by
  cases qtestLog with
  | true => rfl
  | false => rfl

private theorem session_start (target : FuzzTarget σ) (callees : Callees σ) (environ : Environ)
    (inputs : List (List UInt8)) (s : σ) :
    target.session inputs (target.start callees environ s) =
      runScript (target.script callees environ inputs) s := by
  rw [FuzzTarget.script, runScript_append, runScript_append, runScript_append, runScript_append,
    runScript_toList, runScript_inputs, ← cmdlineTail_eq]
  change _ = inputs.foldl _ (runScript _ (target.start callees environ s))
  rcases inputs with _ | ⟨data, inputs⟩
  · rfl
  · rw [if_neg (List.cons_ne_nil data inputs), runScript_toList]
    rfl

private theorem find_name {registered : List (FuzzTarget σ)} (hdistinct : DistinctNames registered)
    {target : FuzzTarget σ} (hmem : target ∈ registered) :
    (registered.find? fun tmp => tmp.name = target.name) = some target := by
  rcases hfind : registered.find? fun tmp => tmp.name = target.name with _ | tmp
  · have hno := List.find?_eq_none.mp hfind target hmem
    simp at hno
  · have hname : tmp.name = target.name := by simpa using List.find?_some hfind
    have hsame := List.inj_on_of_nodup_map hdistinct (List.mem_of_find?_eq_some hfind) hmem hname
    exact hfind.trans (congrArg some hsame)

/-- A target whose calls leave their names behind. -/
def tracing (name : List Char) : FuzzTarget (List (List Char)) where
  name := name
  getInitCmdline _ := name
  preVmInit := some fun s => s ++ ["pre_vm_init".toList]
  preFuzz := some fun s => s ++ ["pre_fuzz".toList]
  fuzz data s := s ++ [data.map fun b => Char.ofNat b.toNat]

def tracingCallees : Callees (List (List Char)) where
  fuzzQtestSetSerialize serialize s := s ++ [if serialize then "text".toList else "direct".toList]
  qtestSetup s := s ++ ["qtest_setup".toList]
  qemuInit cmdline s := s ++ [cmdline]

end VirtioCrash.Fuzz
