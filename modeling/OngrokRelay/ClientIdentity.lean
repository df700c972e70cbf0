import OngrokRelay.Domain
import OngrokRelay.Interleaving
import Mathlib.Data.List.TakeDrop

/-
  The client's identity file, and the processes that load it.

  Every client process begins by loading `node.json`: it reads the node id and
  the private key there, gives a file without a key one, and writes a new
  identity where there is no file. Nothing locks the file, and `fs::write`
  empties it before the first byte goes in; so a process is a task, with one
  section for each call into the file system, that other processes interrupt
  and that may be killed between any two of them. A call fails when the
  environment says so, and a write takes as many bytes as it says. A file of this
size is read in one call, which sees it at one moment.

  1. `LoadPc.Fits`: what a process relies on in the file, and `Identity`, the
     invariant. `loadStep_fits`: a section keeps what the process that runs it
     relies on. `loadStep_frame`: what it leaves of the file to the others.
  2. `identity_run`: the invariant holds in every state of every interleaving
     in which no two processes have both decided to write, no `path.exists()`
     fails (its failure reads as an absent file) and no key is drawn zero.
  3. `loads_agree`: all processes then return one identity, the one the file
     holds, and the node id of a file from before keys is never replaced.
  4. `keyed_file_is_final`: a file with a key is never written again, as long
     as no `path.exists()` fails.
  5. `first_run_creates`: a process that nothing disturbs creates the identity,
     or gives an old file its key, and leaves it readable by its owner only.
  6. `first_runs_race`: without the condition of 2, two first runs return two
     identities, of which the file keeps the second.

  Correspondence (Rust ↔ Lean):
    `NodeState`                         ↔ `NodeState`
    `load_or_create_state`              ↔ `loadOrCreateState` with `LoadPc`
    `write_state`                       ↔ `writeState`, then `truncate`, `write`, `setPermissions`
    `random_private_key`, `NodeId::new` ↔ the draws of `LoadEnv`
    `serde_json` on a `NodeState`       ↔ `StateFormat`
-/

namespace OngrokRelay

open Interleaving Transition

/-! ## The file -/

/-- A private key, `[u8; 32]`. -/
abbrev PrivateKey := BitVec 256

structure NodeState where
  nodeId : NodeId
  privateKey : PrivateKey
  deriving DecidableEq

/-- A file from before keys: `private_key` defaults to zeros. -/
def NodeState.keyless (state : NodeState) : Bool := state.privateKey = 0

structure StatePath where
  display : String
  parent : Option String

/-- The JSON of a node state: `to_vec_pretty` and `from_slice`. -/
structure StateFormat where
  toVecPretty : NodeState → Except String (List UInt8)
  fromSlice : List UInt8 → Except String NodeState

/-- A written state is read back, and a text that breaks off is not read. -/
structure StateFormat.Lawful (format : StateFormat) : Prop where
  roundTrip : ∀ state json, format.toVecPretty state = .ok json →
    format.fromSlice json = .ok state
  partialText : ∀ state json n, format.toVecPretty state = .ok json → n < json.length →
    ∃ e, format.fromSlice (json.take n) = .error e

/-- `node.json`: its bytes if it exists, and whether its mode is `0o600`. -/
structure StateFile where
  content : Option (List UInt8)
  ownerOnly : Bool
  deriving DecidableEq

/-- `O_CREAT | O_TRUNC`: a new file has the mode of the umask, an old one keeps its own. -/
def StateFile.truncate (file : StateFile) : StateFile :=
  { content := some [], ownerOnly := file.content.isSome && file.ownerOnly }

/-- A write at a descriptor's offset; bytes between the end of the file and the offset are zeros. -/
def StateFile.writeAt (offset : Nat) (bytes : List UInt8) (file : StateFile) : StateFile :=
  { file with content := file.content.map fun content =>
      content.takeD offset 0 ++ bytes ++ content.drop (offset + bytes.length) }

/-- The node state that a reader finds. -/
def StateFile.state (format : StateFormat) (file : StateFile) : Option NodeState :=
  file.content.bind fun content => (format.fromSlice content).toOption

/-! ## A process -/

/-- What the world decides in one section: whether the process is killed before
it, whether its call fails, how many bytes its write takes, and what is drawn. -/
structure LoadEnv where
  killed : Bool
  fails : Bool
  written : Nat
  nodeId : NodeId
  privateKey : PrivateKey

inductive LoadPc
  | check
  | read
  | createDir
  | truncate (state : NodeState) (json : List UInt8)
  | write (state : NodeState) (offset : Nat) (rest : List UInt8)
  | setPermissions (state : NodeState)
  | done (result : Except String NodeState)
  | killed
  deriving DecidableEq

/-- `write_state` up to its first call into the file system. -/
def writeState (format : StateFormat) (state : NodeState) : LoadPc :=
  match format.toVecPretty state with
  | .error e => .done (.error e)
  | .ok json => .truncate state json

def loadOrCreateState (format : StateFormat) (path : StatePath) (env : LoadEnv)
    (file : StateFile) : LoadPc → StateFile × LoadPc
  -- `path.exists()` is false too where the metadata cannot be had
  | .check => (file, if file.content.isSome && !env.fails then .read else .createDir)
  | .read =>
    match file.content with
    | none => (file, .done (.error ("failed to read " ++ path.display)))
    | some content =>
      if env.fails then (file, .done (.error ("failed to read " ++ path.display)))
      else match format.fromSlice content with
        | .error _ => (file, .done (.error ("invalid node state at " ++ path.display)))
        | .ok state =>
          if state.keyless then
            (file, writeState format { state with privateKey := env.privateKey })
          else (file, .done (.ok state))
  | .createDir =>
    match path.parent with
    | none => (file, .done (.error "state path has no parent"))
    | some parent =>
      if env.fails then (file, .done (.error ("failed to create " ++ parent)))
      else (file, writeState format ⟨env.nodeId, env.privateKey⟩)
  | .truncate state json =>
    if env.fails then (file, .done (.error ("failed to write " ++ path.display)))
    else (file.truncate, .write state 0 json)
  | .write state offset rest =>
    match rest with
    | [] => (file, .setPermissions state)
    | byte :: rest =>
      -- a call that takes no byte is an error of `write_all`
      if env.fails || env.written == 0 then
        (file, .done (.error ("failed to write " ++ path.display)))
      else
        let taken := (byte :: rest).take env.written
        (file.writeAt offset taken,
          .write state (offset + taken.length) ((byte :: rest).drop taken.length))
  | .setPermissions state =>
    if env.fails then
      (file, .done (.error ("failed to set permissions on " ++ path.display)))
    else ({ file with ownerOnly := true }, .done (.ok state))
  | .done result => (file, .done result)
  | .killed => (file, .killed)

/-- One section of a process; it may be killed before it. -/
def loadStep (format : StateFormat) (path : StatePath) (env : LoadEnv) (file : StateFile)
    (pc : LoadPc) : StateFile × LoadPc :=
  if env.killed then (file, match pc with | .done result => .done result | _ => .killed)
  else loadOrCreateState format path env file pc

/-- The process has decided to write and has not opened the file yet. -/
def LoadPc.decided : LoadPc → Bool
  | .createDir | .truncate _ _ => true
  | _ => false

/-- The process empties the file next. -/
def LoadPc.opening : LoadPc → Bool
  | .truncate _ _ => true
  | _ => false

def LoadPc.writing : LoadPc → Bool
  | .write _ _ _ => true
  | _ => false

/-! ## What a process relies on -/

/-- The file holds this state, and the state has its key. -/
def StateFile.Holds (format : StateFormat) (file : StateFile) (state : NodeState) : Prop :=
  file.state format = some state ∧ state.keyless = false

instance (file : StateFile) (state : NodeState) (format : StateFormat) :
    Decidable (file.Holds format state) :=
  inferInstanceAs (Decidable (file.state format = some state ∧ state.keyless = false))

def LoadPc.Fits (format : StateFormat) (file : StateFile) : LoadPc → Prop
  | .createDir => file.content = none
  | .truncate state json =>
    format.toVecPretty state = .ok json ∧ state.keyless = false ∧
      (file.content = none ∨
        ∃ old, file.state format = some old ∧ old.keyless = true ∧ old.nodeId = state.nodeId)
  | .write state offset rest =>
    state.keyless = false ∧ ∃ json, format.toVecPretty state = .ok json ∧
      offset ≤ json.length ∧ rest = json.drop offset ∧ file.content = some (json.take offset)
  | .setPermissions state => file.Holds format state
  | .done (.ok state) => file.Holds format state
  | .check | .read | .done (.error _) | .killed => True

variable {format : StateFormat} (path : StatePath)

theorem StateFile.Holds.unique {file : StateFile} {a b : NodeState}
    (ha : file.Holds format a) (hb : file.Holds format b) : a = b :=
  Option.some.inj (ha.1.symm.trans hb.1)

/-- A file that holds a state with a key is not about to be replaced. -/
theorem LoadPc.Fits.not_decided {file : StateFile} {pc : LoadPc} {state : NodeState}
    (h : pc.Fits format file) (hstate : file.Holds format state) : pc.decided = false := by
  obtain ⟨hholds, hkey⟩ := hstate
  cases pc with
  | createDir =>
    have hnone : file.content = none := h
    simp only [StateFile.state, hnone, Option.bind_none] at hholds
    cases hholds
  | truncate new json =>
    obtain ⟨-, -, hfile⟩ := h
    rcases hfile with hnone | ⟨old, hold, hkeyless, -⟩
    · simp only [StateFile.state, hnone, Option.bind_none] at hholds
      cases hholds
    · rw [hold] at hholds
      cases hholds
      rw [hkeyless] at hkey
      cases hkey
  | check | read | write _ _ _ | setPermissions _ | done _ | killed => rfl

/-- What a writer finds while it writes: nothing readable, or its own state. -/
theorem LoadPc.Fits.write_state (hlawful : format.Lawful) {file : StateFile} {state : NodeState}
    {offset : Nat} {rest : List UInt8} (h : (LoadPc.write state offset rest).Fits format file) :
    if rest = [] then file.Holds format state else file.state format = none := by
  obtain ⟨hkey, json, hjson, hle, rfl, hcontent⟩ := h
  split
  · rename_i hnil
    have hall : json.take offset = json :=
      List.take_of_length_le (List.drop_eq_nil_iff.mp hnil)
    refine ⟨?_, hkey⟩
    simp only [StateFile.state, hcontent, Option.bind_some, hall,
      hlawful.roundTrip state json hjson]
    rfl
  · rename_i hrest
    have hlt : offset < json.length := by
      rcases Nat.lt_or_ge offset json.length with h | h
      · exact h
      · exact absurd (List.drop_eq_nil_iff.mpr h) hrest
    obtain ⟨e, he⟩ := hlawful.partialText state json offset hjson hlt
    simp only [StateFile.state, hcontent, Option.bind_some, he]
    rfl

/-- A file under a writer is not about to be replaced. -/
theorem LoadPc.Fits.not_decided_of_write (hlawful : format.Lawful) {file : StateFile}
    {pc : LoadPc} {state : NodeState} {offset : Nat} {rest : List UInt8}
    (hwrite : (LoadPc.write state offset rest).Fits format file) (h : pc.Fits format file) :
    pc.decided = false := by
  have hstate := hwrite.write_state hlawful
  split at hstate
  · exact h.not_decided hstate
  · -- half a text: the file exists and is not read
    obtain ⟨-, _, -, -, -, hcontent⟩ := hwrite
    cases pc with
    | createDir =>
      have hnone : file.content = none := h
      rw [hcontent] at hnone
      cases hnone
    | truncate new json =>
      obtain ⟨-, -, hfile⟩ := h
      rcases hfile with hnone | ⟨old, hold, -, -⟩
      · rw [hcontent] at hnone
        cases hnone
      · rw [hstate] at hold
        cases hold
    | check | read | write _ _ _ | setPermissions _ | done _ | killed => rfl

/-- The bytes a write adds continue the text that the file holds so far. -/
theorem StateFile.writeAt_take {file : StateFile} {json : List UInt8} {offset n : Nat}
    (hle : offset ≤ json.length) (hcontent : file.content = some (json.take offset)) :
    (file.writeAt offset ((json.drop offset).take n)).content =
      some (json.take (offset + ((json.drop offset).take n).length)) := by
  have hlen : (json.take offset).length = offset := List.length_take_of_le hle
  have hkeep : (json.take offset).takeD offset 0 = json.take offset := by
    rw [List.takeD_eq_take 0 (le_of_eq hlen.symm), List.take_take, Nat.min_self]
  have hrest : (json.take offset).drop (offset + ((json.drop offset).take n).length) = [] :=
    List.drop_eq_nil_of_le (by omega)
  have htaken : (json.drop offset).take ((json.drop offset).take n).length =
      (json.drop offset).take n := by
    rw [List.length_take, List.take_eq_take_iff]
    omega
  simp only [StateFile.writeAt, hcontent, Option.map_some, hkeep, hrest, List.append_nil,
    List.take_add, htaken]

/-! ## One section -/

/-- **A section keeps what its process relies on.** -/
theorem loadStep_fits (hlawful : format.Lawful) {env : LoadEnv} {file : StateFile} {pc : LoadPc}
    (hkey : env.privateKey ≠ 0) (hcheck : pc = .check → env.fails = false)
    (h : pc.Fits format file) :
    (loadStep format path env file pc).2.Fits format (loadStep format path env file pc).1 := by
  have hdraw (state : NodeState) (hfile : file.content = none ∨
      ∃ old, file.state format = some old ∧ old.keyless = true ∧ old.nodeId = state.nodeId)
      (hstate : state.privateKey = env.privateKey) :
      (writeState format state).Fits format file := by
    unfold writeState
    cases hjson : format.toVecPretty state with
    | error e => trivial
    | ok json => exact ⟨hjson, decide_eq_false (hstate ▸ hkey), hfile⟩
  unfold loadStep
  split
  · cases pc <;> trivial
  cases pc with
  | check =>
    simp only [loadOrCreateState, hcheck rfl]
    split
    · trivial
    · rename_i hsome
      cases hcontent : file.content with
      | none => exact hcontent
      | some content => rw [hcontent] at hsome; exact absurd rfl hsome
  | read =>
    simp only [loadOrCreateState]
    split
    · trivial
    · rename_i content hcontent
      split
      · trivial
      · split
        · trivial
        · rename_i state hread
          have hstate : file.state format = some state := by
            simp only [StateFile.state, hcontent, Option.bind_some, hread]
            rfl
          split
          · rename_i hkeyless
            exact hdraw _ (.inr ⟨state, hstate, hkeyless, rfl⟩) rfl
          · rename_i hkeyed
            exact ⟨hstate, Bool.not_eq_true _ ▸ hkeyed⟩
  | createDir =>
    simp only [loadOrCreateState]
    split
    · trivial
    · split
      · trivial
      · exact hdraw _ (.inl h) rfl
  | truncate state json =>
    obtain ⟨hjson, hkeyed, -⟩ := h
    simp only [loadOrCreateState]
    split
    · trivial
    · exact ⟨hkeyed, json, hjson, Nat.zero_le _, rfl, rfl⟩
  | write state offset rest =>
    obtain ⟨hkeyed, json, hjson, hle, rfl, hcontent⟩ := id h
    simp only [loadOrCreateState]
    split
    · rename_i hrest
      have hstate := h.write_state hlawful
      rwa [if_pos hrest] at hstate
    · rename_i byte rest hrest
      split
      · trivial
      · rw [← hrest]
        refine ⟨hkeyed, json, hjson, ?_, List.drop_drop, StateFile.writeAt_take hle hcontent⟩
        have hlen := List.length_take_le' env.written (json.drop offset)
        rw [List.length_drop] at hlen
        omega
  | setPermissions state =>
    simp only [loadOrCreateState]
    split
    · trivial
    · exact h
  | done result => exact h
  | killed => trivial

/-- What a section leaves of the file: the file as it was, an empty one, one
with more of a text in it, or one with the mode set. -/
theorem loadStep_file (format : StateFormat) (path : StatePath) (env : LoadEnv)
    (file : StateFile) (pc : LoadPc) :
    let next := loadStep format path env file pc
    (next.1 = file ∧ next.2.writing = false) ∨
    (∃ state json, pc = .truncate state json ∧ next = (file.truncate, .write state 0 json)) ∨
    (∃ state offset rest taken, pc = .write state offset rest ∧ rest ≠ [] ∧
      next = (file.writeAt offset taken, .write state (offset + taken.length)
        (rest.drop taken.length))) ∨
    (∃ state, pc = .setPermissions state ∧
      next = ({ file with ownerOnly := true }, .done (.ok state))) := by
  have hwrite (state : NodeState) : (writeState format state).writing = false := by
    unfold writeState
    split <;> rfl
  intro next
  simp only [next]
  unfold loadStep
  split
  · refine .inl ⟨rfl, ?_⟩
    cases pc <;> rfl
  cases pc with
  | check =>
    refine .inl ⟨rfl, ?_⟩
    simp only [loadOrCreateState]
    split <;> rfl
  | read =>
    refine .inl ?_
    simp only [loadOrCreateState]
    split
    · exact ⟨rfl, rfl⟩
    · split
      · exact ⟨rfl, rfl⟩
      · split
        · exact ⟨rfl, rfl⟩
        · split
          · exact ⟨rfl, hwrite _⟩
          · exact ⟨rfl, rfl⟩
  | createDir =>
    refine .inl ?_
    simp only [loadOrCreateState]
    split
    · exact ⟨rfl, rfl⟩
    · split
      · exact ⟨rfl, rfl⟩
      · exact ⟨rfl, hwrite _⟩
  | truncate state json =>
    simp only [loadOrCreateState]
    split
    · exact .inl ⟨rfl, rfl⟩
    · exact .inr (.inl ⟨state, json, rfl, rfl⟩)
  | write state offset rest =>
    simp only [loadOrCreateState]
    split
    · exact .inl ⟨rfl, rfl⟩
    · rename_i byte rest
      split
      · exact .inl ⟨rfl, rfl⟩
      · exact .inr (.inr (.inl ⟨state, offset, byte :: rest, _, rfl, List.cons_ne_nil _ _, rfl⟩))
  | setPermissions state =>
    simp only [loadOrCreateState]
    split
    · exact .inl ⟨rfl, rfl⟩
    · exact .inr (.inr (.inr ⟨state, rfl, rfl⟩))
  | done result => exact .inl ⟨rfl, rfl⟩
  | killed => exact .inl ⟨rfl, rfl⟩

/-- **A section leaves the others what they rely on**, if no two processes write
and a file is emptied only when no other process has decided to write. -/
theorem loadStep_frame (hlawful : format.Lawful) {env : LoadEnv} {file : StateFile}
    {pc other : LoadPc} (h : pc.Fits format file) (hother : other.Fits format file)
    (hwriting : pc.writing → other.writing = false)
    (hdecided : ∀ state json, pc = .truncate state json → other.decided = false) :
    other.Fits format (loadStep format path env file pc).1 := by
  -- what the others rely on survives where they are not at work on the file
  have hidle {file' : StateFile} (hnd : other.decided = false) (hnw : other.writing = false)
      (hholds : ∀ state, file.Holds format state → file'.Holds format state) :
      other.Fits format file' := by
    cases other with
    | createDir | truncate _ _ => cases hnd
    | write _ _ _ => cases hnw
    | setPermissions state => exact hholds state hother
    | done result =>
      cases result with
      | ok state => exact hholds state hother
      | error _ => trivial
    | check | read | killed => trivial
  rcases loadStep_file format path env file pc with
    ⟨hfile, -⟩ | ⟨state, json, rfl, hnext⟩ | ⟨state, offset, rest, taken, rfl, hrest, hnext⟩ |
    ⟨state, rfl, hnext⟩
  · rwa [hfile]
  · rw [hnext]
    refine hidle (hdecided state json rfl) ?_ ?_
    · cases other with
      | write _ _ _ =>
        have hnot := hother.not_decided_of_write hlawful h
        cases hnot
      | _ => rfl
    · intro state' hholds
      have hnot := h.not_decided hholds
      cases hnot
  · rw [hnext]
    refine hidle (h.not_decided_of_write hlawful hother) (hwriting rfl) ?_
    intro state' hholds
    have hnone := h.write_state hlawful
    rw [if_neg hrest] at hnone
    rw [StateFile.Holds, hnone] at hholds
    cases hholds.1
  · rw [hnext]
    cases other with
    | done result => cases result <;> exact hother
    | _ => exact hother

/-- Only a writer goes on writing beside a writer: no process starts to. -/
theorem loadStep_writing (hlawful : format.Lawful) {env : LoadEnv} {file : StateFile}
    {pc other : LoadPc} (h : pc.Fits format file) (hother : other.Fits format file)
    (hwriting : other.writing) (hnext : (loadStep format path env file pc).2.writing) :
    pc.writing := by
  rcases loadStep_file format path env file pc with
    ⟨-, hidle⟩ | ⟨state, json, rfl, -⟩ | ⟨state, offset, rest, taken, rfl, -, -⟩ |
    ⟨state, rfl, hloaded⟩
  · rw [hidle] at hnext
    cases hnext
  · cases other with
    | write _ _ _ =>
      have hnot := hother.not_decided_of_write hlawful h
      cases hnot
    | _ => cases hwriting
  · rfl
  · rw [hloaded] at hnext
    cases hnext

/-! ## All the processes -/

/-- **The invariant of the identity file**: every process finds what it relies
on, at most one writes, and a file that had an identity at the start still has
it wherever it can be read or is being written. -/
structure Identity (format : StateFormat) (born : Option NodeId) (p : Pool StateFile LoadPc) :
    Prop where
  fits : ∀ pc ∈ p.tasks, pc.Fits format p.shared
  oneWriter : ∀ (i j : Nat) (t u : LoadPc), p.tasks[i]? = some t → p.tasks[j]? = some u →
    t.writing → u.writing → i = j
  exists_of_born : born.isSome → p.shared.content.isSome
  born_state : ∀ nodeId ∈ born, ∀ state, p.shared.state format = some state →
    state.nodeId = nodeId
  born_write : ∀ nodeId ∈ born, ∀ state offset rest, .write state offset rest ∈ p.tasks →
    state.nodeId = nodeId

/-- The condition on a step: a process starts at the beginning, no key is drawn
zero, the metadata of the file can be had, and a file is emptied only when no
other process has decided to write it. -/
def OneDecides (p : Pool StateFile LoadPc) : Event LoadEnv LoadPc → Prop
  | .spawn pc => pc = .check
  | .run i env =>
    env.privateKey ≠ 0 ∧ (p.tasks[i]? = some .check → env.fails = false) ∧
      ∀ pc ∈ p.tasks[i]?, pc.opening → ∀ u ∈ p.others i, u.decided = false

instance decidableOneDecides (p : Pool StateFile LoadPc) :
    ∀ e : Event LoadEnv LoadPc, Decidable (OneDecides p e)
  | .spawn pc => inferInstanceAs (Decidable (pc = .check))
  | .run i env => inferInstanceAs (Decidable (env.privateKey ≠ 0 ∧
      (p.tasks[i]? = some .check → env.fails = false) ∧
      ∀ pc ∈ p.tasks[i]?, pc.opening → ∀ u ∈ p.others i, u.decided = false))

theorem identity_nil (file : StateFile) :
    Identity format ((file.state format).map NodeState.nodeId) ⟨file, []⟩ where
  fits := fun pc hpc => by cases hpc
  oneWriter := fun i j t u ht => by cases ht
  exists_of_born := fun hborn => by
    cases hcontent : file.content with
    | none => simp only [StateFile.state, hcontent] at hborn; cases hborn
    | some content => rfl
  born_state := fun nodeId hborn state hstate => by
    have hborn : (file.state format).map NodeState.nodeId = some nodeId := hborn
    have hstate : file.state format = some state := hstate
    rw [hstate] at hborn
    exact Option.some.inj hborn
  born_write := fun _ _ _ _ _ h => by cases h

/-- What one section leaves of the identity the file was born with. -/
theorem loadStep_born (hlawful : format.Lawful) {env : LoadEnv} {file : StateFile} {pc : LoadPc}
    {nodeId : NodeId} (h : pc.Fits format file) (hexists : file.content.isSome)
    (hstate : ∀ state, file.state format = some state → state.nodeId = nodeId)
    (hwrite : ∀ state offset rest, pc = .write state offset rest → state.nodeId = nodeId)
    (hnext : (loadStep format path env file pc).2.Fits format
      (loadStep format path env file pc).1) :
    (loadStep format path env file pc).1.content.isSome ∧
    (∀ state, (loadStep format path env file pc).1.state format = some state →
      state.nodeId = nodeId) ∧
    (∀ state offset rest, (loadStep format path env file pc).2 = .write state offset rest →
      state.nodeId = nodeId) := by
  -- under a writer the file can only be read as the writer's state
  have hunder {file' : StateFile} {new : NodeState} {offset : Nat} {rest : List UInt8}
      (hfits : (LoadPc.write new offset rest).Fits format file') (hnew : new.nodeId = nodeId) :
      ∀ state, file'.state format = some state → state.nodeId = nodeId := by
    intro state hread
    have hfound := hfits.write_state hlawful
    split at hfound
    · rw [hfound.1] at hread
      rw [← Option.some.inj hread]
      exact hnew
    · rw [hfound] at hread
      cases hread
  rcases loadStep_file format path env file pc with
    ⟨hfile, hwriting⟩ | ⟨state, json, rfl, hloaded⟩ |
    ⟨state, offset, rest, taken, rfl, hrest, hloaded⟩ | ⟨state, rfl, hloaded⟩
  · rw [hfile]
    refine ⟨hexists, hstate, fun state offset rest hloaded => ?_⟩
    rw [hloaded] at hwriting
    cases hwriting
  · have hnew : state.nodeId = nodeId := by
      obtain ⟨-, -, hnone | ⟨old, hold, -, hid⟩⟩ := h
      · rw [hnone] at hexists
        cases hexists
      · rw [← hid]
        exact hstate old hold
    rw [hloaded] at hnext ⊢
    exact ⟨rfl, hunder hnext hnew, fun _ _ _ heq => by cases heq; exact hnew⟩
  · have hnew := hwrite state offset rest rfl
    rw [hloaded] at hnext ⊢
    refine ⟨?_, hunder hnext hnew, fun _ _ _ heq => by cases heq; exact hnew⟩
    simp only [StateFile.writeAt, Option.isSome_map]
    exact hexists
  · rw [hloaded]
    exact ⟨hexists, hstate, fun _ _ _ heq => by cases heq⟩

/-- **Every section that meets the condition keeps the invariant.** -/
theorem identity_next (hlawful : format.Lawful) (born : Option NodeId)
    (p : Pool StateFile LoadPc) (e : Event LoadEnv LoadPc) (h : Identity format born p)
    (he : OneDecides p e) : Identity format born (p.next (loadStep format path) e) := by
  cases e with
  | spawn pc =>
    obtain rfl : pc = .check := he
    refine ⟨fun u hu => ?_, fun i j t u ht hu htw huw => ?_, h.exists_of_born, h.born_state,
      fun nodeId hborn state offset rest hu => ?_⟩
    · rcases List.mem_append.mp hu with hu | hu
      · exact h.fits u hu
      · rw [List.mem_singleton.mp hu]
        trivial
    · rcases getElem?_append_some ht with ht | ⟨-, rfl⟩
      · rcases getElem?_append_some hu with hu | ⟨-, rfl⟩
        · exact h.oneWriter i j t u ht hu htw huw
        · cases huw
      · cases htw
    · rcases List.mem_append.mp hu with hu | hu
      · exact h.born_write nodeId hborn state offset rest hu
      · cases List.mem_singleton.mp hu
  | run i env =>
    obtain ⟨hkey, hcheck, hopening⟩ := he
    rcases p.advance_cases (loadStep format path) i env with ⟨-, hnext⟩ | ⟨pc, hpc, hnext⟩
    · simpa only [Pool.next, hnext] using h
    have hmem : pc ∈ p.tasks := List.mem_of_getElem? hpc
    have hfits := loadStep_fits path hlawful hkey
      (fun heq => hcheck (heq ▸ hpc)) (h.fits pc hmem)
    have hframe (j : Nat) (u : LoadPc) (hij : i ≠ j) (hu : p.tasks[j]? = some u) :
        u.Fits format (loadStep format path env p.shared pc).1 := by
      refine loadStep_frame path hlawful (h.fits pc hmem) (h.fits u (List.mem_of_getElem? hu)) ?_ ?_
      · intro hwriting
        cases huw : u.writing with
        | false => rfl
        | true => exact absurd (h.oneWriter i j pc u hpc hu hwriting huw) hij
      · intro state json heq
        exact hopening pc hpc (by rw [heq]; rfl) u
          (Pool.mem_others.mpr ⟨j, Ne.symm hij, hu⟩)
    have hborn (nodeId : NodeId) (hborn : nodeId ∈ born) :=
      loadStep_born path hlawful (h.fits pc hmem) (h.exists_of_born (Option.isSome_of_mem hborn))
        (h.born_state nodeId hborn)
        (fun state offset rest heq => h.born_write nodeId hborn state offset rest (heq ▸ hmem))
        hfits
    simp only [Pool.next, hnext]
    refine ⟨fun u hu => ?_, fun j k t u ht hu htw huw => ?_, fun hsome => ?_,
      fun nodeId hn => (hborn nodeId hn).2.1, fun nodeId hn state offset rest hu => ?_⟩
    · obtain ⟨j, hj⟩ := List.mem_iff_getElem?.mp hu
      rcases getElem?_set_some hj with ⟨-, rfl⟩ | ⟨hij, hj⟩
      · exact hfits
      · exact hframe j u hij hj
    · have hself (m : Nat) (v : LoadPc) (hm : i ≠ m) (hv : p.tasks[m]? = some v)
          (hvw : v.writing) (hnw : (loadStep format path env p.shared pc).2.writing) : False :=
        hm (h.oneWriter i m pc v hpc hv
          (loadStep_writing path hlawful (h.fits pc hmem) (h.fits v (List.mem_of_getElem? hv))
            hvw hnw)
          hvw)
      rcases getElem?_set_some ht with ⟨rfl, rfl⟩ | ⟨hij, ht⟩
      · rcases getElem?_set_some hu with ⟨rfl, -⟩ | ⟨hik, hu⟩
        · rfl
        · exact absurd htw (hself k u hik hu huw)
      · rcases getElem?_set_some hu with ⟨rfl, rfl⟩ | ⟨-, hu⟩
        · exact absurd huw (hself j t hij ht htw)
        · exact h.oneWriter j k t u ht hu htw huw
    · obtain ⟨nodeId, hn⟩ := Option.isSome_iff_exists.mp hsome
      exact (hborn nodeId hn).1
    · obtain ⟨j, hj⟩ := List.mem_iff_getElem?.mp hu
      rcases getElem?_set_some hj with ⟨-, heq⟩ | ⟨-, hj⟩
      · exact (hborn nodeId hn).2.2 state offset rest heq.symm
      · exact h.born_write nodeId hn state offset rest (List.mem_of_getElem? hj)

theorem identity_run (hlawful : format.Lawful) (file : StateFile)
    (events : List (Event LoadEnv LoadPc))
    (h : EveryStep (Pool.next (loadStep format path)) OneDecides ⟨file, []⟩ events) :
    EveryState (Pool.next (loadStep format path))
      (Identity format ((file.state format).map NodeState.nodeId)) ⟨file, []⟩ events :=
  everyState_of_everyStep (identity_next path hlawful _) (identity_nil file) h

/-! ## An identity file in JSON -/

/-- The node 7 with a key whose last byte is 1. -/
def keyedNode : NodeState := ⟨⟨7⟩, 1⟩

def keyedText : List UInt8 :=
  ("\x7b\n  \"node_id\": \"00000000-0000-0000-0000-000000000007\",\n  \"private_key\": [\n" ++
    String.join (List.replicate 31 "    0,\n") ++ "    1\n  ]\n\x7d").toUTF8.toList

/-- The same node before it had a key. -/
def legacyText : List UInt8 :=
  "\x7b\"node_id\":\"00000000-0000-0000-0000-000000000007\"\x7d".toUTF8.toList

/-- The JSON codec on these two texts and what the first one begins with. -/
def keyedFormat : StateFormat where
  toVecPretty state := if state = keyedNode then .ok keyedText else .error "not this state"
  fromSlice text :=
    if text = keyedText then .ok keyedNode
    else if text = legacyText then .ok ⟨⟨7⟩, 0⟩
    else .error "not these texts"

theorem keyedFormat_written {state : NodeState} {json : List UInt8}
    (h : keyedFormat.toVecPretty state = .ok json) : state = keyedNode ∧ json = keyedText := by
  simp only [keyedFormat] at h
  split at h
  · rename_i hstate
    cases h
    exact ⟨hstate, rfl⟩
  · cases h

theorem keyedFormat_lawful : keyedFormat.Lawful where
  roundTrip := by
    intro state json h
    obtain ⟨rfl, rfl⟩ := keyedFormat_written h
    exact if_pos rfl
  partialText := by
    intro state json n h hn
    obtain ⟨-, rfl⟩ := keyedFormat_written h
    have hlen : (keyedText.take n).length = n := List.length_take_of_le (Nat.le_of_lt hn)
    refine ⟨"not these texts", ?_⟩
    simp only [keyedFormat]
    rw [if_neg (fun heq => ?_), if_neg (fun heq => ?_)]
    · -- the text of the old file does not begin like the new one
      have hn' : n = legacyText.length := by rw [← heq, hlen]
      rw [hn'] at heq
      exact absurd heq (by decide +kernel)
    · rw [heq] at hlen
      omega

def nodePath : StatePath := ⟨"/state/node.json", some "/state"⟩

def smooth : LoadEnv := ⟨false, false, 400, ⟨7⟩, 1⟩

/-- One process gives the file a key, a second reads it empty, a third reads it
whole, and the first is killed before it sets the mode. -/
def migration : List (Event LoadEnv LoadPc) :=
  [.spawn .check, .run 0 smooth, .run 0 smooth, .spawn .check, .run 1 smooth, .run 0 smooth,
    .run 1 smooth, .run 0 { smooth with written := 100 }, .spawn .check, .run 2 smooth,
    .run 0 smooth, .run 2 smooth, .run 0 { smooth with killed := true }]

example : (run (Pool.next (loadStep keyedFormat nodePath)) ⟨⟨some legacyText, true⟩, []⟩
    migration).tasks = [.killed, .done (.error "invalid node state at /state/node.json"),
      .done (.ok keyedNode)] := by decide +kernel

/-! ## What the processes return -/

/-- A node state that some process has returned. -/
def Returned (p : Pool StateFile LoadPc) (state : NodeState) : Prop :=
  .done (.ok state) ∈ p.tasks

/-- **All processes are one node.** If no two processes decide to write at once,
no `path.exists()` fails and no key is drawn zero, then in every state of every
interleaving, through other failed calls, partial writes and killed processes,
all that have returned a state returned the same one, with a key; the file holds
it; and a file that could be read at the start gave it its node id. -/
theorem loads_agree (format : StateFormat) (path : StatePath) (hlawful : format.Lawful)
    (file : StateFile) (events : List (Event LoadEnv LoadPc))
    (h : EveryStep (Pool.next (loadStep format path)) OneDecides ⟨file, []⟩ events) :
    EveryState (Pool.next (loadStep format path))
      (fun p => ∀ a, Returned p a → a.privateKey ≠ 0 ∧ p.shared.state format = some a ∧
        (∀ b, Returned p b → b = a) ∧
        ∀ old, file.state format = some old → a.nodeId = old.nodeId) ⟨file, []⟩ events := by
  refine (identity_run path hlawful file events h).mono fun p hp a ha => ?_
  have hholds (b : NodeState) (hb : Returned p b) : p.shared.Holds format b := hp.fits _ hb
  refine ⟨of_decide_eq_false (hholds a ha).2, (hholds a ha).1,
    fun b hb => (hholds b hb).unique (hholds a ha), fun old hold => ?_⟩
  exact hp.born_state old.nodeId (by rw [hold]; rfl) a (hholds a ha).1

theorem loads_agree_migration :
    EveryStep (Pool.next (loadStep keyedFormat nodePath)) OneDecides
      ⟨⟨some legacyText, true⟩, []⟩ migration ∧
    EveryState (Pool.next (loadStep keyedFormat nodePath))
      (fun p => ∀ a, Returned p a → a.privateKey ≠ 0 ∧
        p.shared.state keyedFormat = some a ∧ (∀ b, Returned p b → b = a) ∧
        ∀ old, (⟨some legacyText, true⟩ : StateFile).state keyedFormat = some old →
          a.nodeId = old.nodeId) ⟨⟨some legacyText, true⟩, []⟩ migration :=
  ⟨by decide +kernel,
    loads_agree keyedFormat nodePath keyedFormat_lawful ⟨some legacyText, true⟩ migration
      (by decide +kernel)⟩

/-! ## A file with a key -/

/-- The condition on a step that reads: a process starts at the beginning, and
the metadata of the file can be had. -/
def Reading (p : Pool StateFile LoadPc) : Event LoadEnv LoadPc → Prop
  | .spawn pc => pc = .check
  | .run i env => p.tasks[i]? = some .check → env.fails = false

instance decidableReading (p : Pool StateFile LoadPc) :
    ∀ e : Event LoadEnv LoadPc, Decidable (Reading p e)
  | .spawn pc => inferInstanceAs (Decidable (pc = .check))
  | .run i env => inferInstanceAs (Decidable (p.tasks[i]? = some .check → env.fails = false))

/-- Where a process stands that never decides to write. -/
def LoadPc.Idle (state : NodeState) : LoadPc → Prop
  | .check | .read | .done (.error _) | .killed => True
  | .done (.ok a) => a = state
  | .createDir | .truncate _ _ | .write _ _ _ | .setPermissions _ => False

theorem loadStep_idle {env : LoadEnv} {file : StateFile} {pc : LoadPc} {state : NodeState}
    (hfile : file.Holds format state) (hpc : pc.Idle state)
    (hcheck : pc = .check → env.fails = false) :
    (loadStep format path env file pc).1 = file ∧
      (loadStep format path env file pc).2.Idle state := by
  obtain ⟨⟨content, hcontent, hread⟩, hkeyed⟩ := And.imp_left Option.bind_eq_some_iff.mp hfile
  unfold loadStep
  split
  · refine ⟨rfl, ?_⟩
    cases pc <;> trivial
  cases pc with
  | check =>
    simp only [loadOrCreateState, hcheck rfl, hcontent]
    exact ⟨trivial, trivial⟩
  | read =>
    simp only [loadOrCreateState, hcontent]
    split
    · exact ⟨rfl, trivial⟩
    · cases hparse : format.fromSlice content with
      | error e => exact ⟨rfl, trivial⟩
      | ok found =>
        rw [hparse] at hread
        obtain rfl : found = state := Option.some.inj hread
        simp only [hkeyed]
        exact ⟨rfl, rfl⟩
  | done result => exact ⟨rfl, hpc⟩
  | killed => exact ⟨rfl, trivial⟩
  | createDir | truncate _ _ | write _ _ _ | setPermissions _ => exact hpc.elim

/-- **A file with a key is final.** As long as no `path.exists()` fails, how many
processes there are and wherever else they fail or are killed, the file keeps its
bytes and its mode, and a process that returns a state returns the one in the
file. Where one fails, its process goes on to write a new identity over the file. -/
theorem keyed_file_is_final (format : StateFormat) (path : StatePath) (file : StateFile)
    (state : NodeState) (hfile : file.Holds format state)
    (events : List (Event LoadEnv LoadPc))
    (h : EveryStep (Pool.next (loadStep format path)) Reading ⟨file, []⟩ events) :
    EveryState (Pool.next (loadStep format path))
      (fun p => p.shared = file ∧ ∀ a, Returned p a → a = state) ⟨file, []⟩ events := by
  have hstep (p : Pool StateFile LoadPc) (e : Event LoadEnv LoadPc)
      (hp : p.shared = file ∧ ∀ pc ∈ p.tasks, pc.Idle state) (he : Reading p e) :
      (p.next (loadStep format path) e).shared = file ∧
        ∀ pc ∈ (p.next (loadStep format path) e).tasks, pc.Idle state := by
    obtain ⟨rfl, htasks⟩ := hp
    cases e with
    | spawn pc =>
      refine ⟨rfl, fun u hu => ?_⟩
      rcases List.mem_append.mp hu with hu | hu
      · exact htasks u hu
      · obtain rfl : pc = .check := he
        rw [List.mem_singleton.mp hu]
        trivial
    | run i env =>
      rcases p.advance_cases (loadStep format path) i env with ⟨-, hnext⟩ | ⟨pc, hpc, hnext⟩
      · rw [Pool.next, hnext]
        exact ⟨rfl, htasks⟩
      · obtain ⟨hsame, hidle⟩ := loadStep_idle path hfile
          (htasks pc (List.mem_of_getElem? hpc)) (fun heq => he (heq ▸ hpc))
        simp only [Pool.next, hnext]
        refine ⟨hsame, fun u hu => ?_⟩
        rcases List.mem_or_eq_of_mem_set hu with hu | rfl
        · exact htasks u hu
        · exact hidle
  have hinit : (⟨file, []⟩ : Pool StateFile LoadPc).shared = file ∧
      ∀ pc ∈ (⟨file, []⟩ : Pool StateFile LoadPc).tasks, pc.Idle state :=
    ⟨rfl, fun pc hpc => by cases hpc⟩
  exact (everyState_of_everyStep hstep hinit h).mono fun p hp => ⟨hp.1, fun a ha => hp.2 _ ha⟩

theorem keyed_file_is_final_read :
    EveryState (Pool.next (loadStep keyedFormat nodePath))
      (fun p => p.shared = ⟨some keyedText, true⟩ ∧ ∀ a, Returned p a → a = keyedNode)
      ⟨⟨some keyedText, true⟩, []⟩ migration :=
  keyed_file_is_final keyedFormat nodePath ⟨some keyedText, true⟩ keyedNode (by decide +kernel)
    migration (by decide +kernel)

/-! ## A process alone -/

/-- Nothing goes wrong, and a write takes at least a byte. -/
def LoadEnv.Smooth (env : LoadEnv) : Prop :=
  env.killed = false ∧ env.fails = false ∧ 0 < env.written ∧ env.privateKey ≠ 0

instance (env : LoadEnv) : Decidable env.Smooth :=
  inferInstanceAs (Decidable
    (env.killed = false ∧ env.fails = false ∧ 0 < env.written ∧ env.privateKey ≠ 0))

theorem loadStep_done (env : LoadEnv) (file : StateFile) (result : Except String NodeState)
    (n : Nat) : solo (loadStep format path) env n (file, .done result) = (file, .done result) := by
  have hstep : loadStep format path env file (.done result) = (file, .done result) := by
    unfold loadStep
    split <;> rfl
  induction n with
  | zero => rfl
  | succ n ih => rw [solo_succ, hstep, ih]

/-- A writer that nothing disturbs writes its text to the end and sets the mode. -/
theorem loadStep_write_solo (hlawful : format.Lawful) {env : LoadEnv} (henv : env.Smooth)
    {state : NodeState} (n : Nat) : ∀ {file : StateFile} {offset : Nat} {rest : List UInt8},
      (LoadPc.write state offset rest).Fits format file → rest.length + 2 ≤ n →
      ∃ file', solo (loadStep format path) env n (file, .write state offset rest) =
        (file', .done (.ok state)) ∧ file'.Holds format state ∧ file'.ownerOnly = true := by
  obtain ⟨hkilled, hfails, hwritten, hkey⟩ := id henv
  -- induction on the sections: each takes a byte at least off the rest
  induction n with
  | zero => intro file offset rest _ hn; omega
  | succ n ih =>
    intro file offset rest hfits hn
    have hnext := loadStep_fits path hlawful hkey (fun heq => by cases heq) hfits
    cases rest with
    | nil =>
      have hstep : loadStep format path env file (.write state offset []) =
          (file, .setPermissions state) := by
        simp only [loadStep, hkilled, loadOrCreateState]
        rfl
      have hlast : loadStep format path env file (.setPermissions state) =
          ({ file with ownerOnly := true }, .done (.ok state)) := by
        simp only [loadStep, hkilled, loadOrCreateState, hfails]
        rfl
      rw [hstep] at hnext
      obtain ⟨m, rfl⟩ : ∃ m, n = m + 1 := ⟨n - 1, by simp only [List.length_nil] at hn; omega⟩
      exact ⟨{ file with ownerOnly := true },
        by rw [solo_succ, hstep, solo_succ, hlast, loadStep_done path],
        hnext, rfl⟩
    | cons byte rest =>
      have hstep : loadStep format path env file (.write state offset (byte :: rest)) =
          (file.writeAt offset ((byte :: rest).take env.written),
            .write state (offset + ((byte :: rest).take env.written).length)
              ((byte :: rest).drop ((byte :: rest).take env.written).length)) := by
        simp only [loadStep, hkilled, loadOrCreateState, hfails,
          beq_eq_false_iff_ne.mpr (Nat.ne_of_gt hwritten)]
        rfl
      rw [hstep] at hnext
      rw [solo_succ, hstep]
      refine ih hnext ?_
      rw [List.length_drop, List.length_take]
      simp only [List.length_cons] at hn ⊢
      omega

/-- A process that is about to empty the file, and that nothing disturbs, leaves
its state in it. -/
theorem loadStep_truncate_solo (hlawful : format.Lawful) {env : LoadEnv} (henv : env.Smooth)
    {state : NodeState} {json : List UInt8} (hjson : format.toVecPretty state = .ok json)
    (hkeyed : state.keyless = false) (file : StateFile) (n : Nat) (hn : json.length + 3 ≤ n) :
    ∃ file', solo (loadStep format path) env n (file, .truncate state json) =
      (file', .done (.ok state)) ∧ file'.Holds format state ∧ file'.ownerOnly = true := by
  have hstep : loadStep format path env file (.truncate state json) =
      (file.truncate, .write state 0 json) := by
    simp only [loadStep, henv.1, loadOrCreateState, henv.2.1]
    rfl
  have hfits : (LoadPc.write state 0 json).Fits format file.truncate :=
    ⟨hkeyed, json, hjson, Nat.zero_le _, rfl, rfl⟩
  obtain ⟨m, rfl⟩ : ∃ m, n = m + 1 := ⟨n - 1, by omega⟩
  rw [solo_succ, hstep]
  exact loadStep_write_solo path hlawful henv m hfits (by omega)

/-- **A first run creates the identity.** A process that nothing disturbs, and
that finds no file or a file without a key, returns a state that the file then
holds, readable by its owner only: the identity drawn, or the node id of the
file with the key drawn. -/
theorem first_run_creates (format : StateFormat) (path : StatePath) (hlawful : format.Lawful)
    (env : LoadEnv) (henv : env.Smooth) (hparent : path.parent.isSome) (file : StateFile)
    (state : NodeState) (json : List UInt8) (hjson : format.toVecPretty state = .ok json)
    (hstate : state = match file.state format with
      | none => ⟨env.nodeId, env.privateKey⟩
      | some old => { old with privateKey := env.privateKey })
    (hfile : file.content = none ∨ ∃ old, file.state format = some old ∧ old.keyless = true)
    (n : Nat) (hn : json.length + 5 ≤ n) :
    ∃ file', solo (loadStep format path) env n (file, .check) = (file', .done (.ok state)) ∧
      file'.Holds format state ∧ file'.ownerOnly = true := by
  obtain ⟨hkilled, hfails, -, hkey⟩ := id henv
  have hkeyed : state.keyless = false := by
    rw [hstate]
    split <;> exact decide_eq_false hkey
  obtain ⟨parent, hparent⟩ := Option.isSome_iff_exists.mp hparent
  have hfirst : loadStep format path env file .check =
      (file, if file.content.isSome then .read else .createDir) := by
    simp only [loadStep, hkilled, loadOrCreateState, hfails, Bool.not_false, Bool.and_true]
    rfl
  have hsecond : loadStep format path env file
      (if file.content.isSome then .read else .createDir) = (file, .truncate state json) := by
    have hwrite : writeState format state = .truncate state json := by
      simp only [writeState, hjson]
    rcases hfile with hnone | ⟨old, hold, hkeyless⟩
    · have hnew : state = ⟨env.nodeId, env.privateKey⟩ := by
        rw [hstate, StateFile.state, hnone]
        rfl
      rw [hnew] at hwrite
      simp only [hnone, loadStep, hkilled, loadOrCreateState, hparent, hfails]
      exact congrArg (Prod.mk file) (hnew ▸ hwrite)
    · obtain ⟨content, hcontent, hread⟩ := Option.bind_eq_some_iff.mp hold
      have hparse : format.fromSlice content = .ok old := by
        cases hparse : format.fromSlice content with
        | error e => rw [hparse] at hread; cases hread
        | ok found => rw [hparse] at hread; exact congrArg _ (Option.some.inj hread)
      have hnew : state = { old with privateKey := env.privateKey } := by
        rw [hstate, hold]
      rw [hnew] at hwrite
      simp only [hcontent, Option.isSome_some, if_true, loadStep, hkilled, loadOrCreateState,
        hfails, hparse, hkeyless]
      exact congrArg (Prod.mk file) (hnew ▸ hwrite)
  obtain ⟨m, rfl⟩ : ∃ m, n = m + 2 := ⟨n - 2, by omega⟩
  rw [solo_succ, hfirst, solo_succ, hsecond]
  exact loadStep_truncate_solo path hlawful henv hjson hkeyed file m (by omega)

theorem first_run_creates_legacy :
    ∃ file', solo (loadStep keyedFormat nodePath) smooth 400
        (⟨some legacyText, false⟩, .check) = (file', .done (.ok keyedNode)) ∧
      file'.Holds keyedFormat keyedNode ∧ file'.ownerOnly = true :=
  first_run_creates keyedFormat nodePath keyedFormat_lawful smooth (by decide) (by decide)
    ⟨some legacyText, false⟩ keyedNode keyedText (by decide +kernel) (by decide +kernel)
    (.inr ⟨⟨⟨7⟩, 0⟩, by decide +kernel, by decide +kernel⟩) 400 (by decide +kernel)

/-- Two processes decide to create the file, and then write it one after the other. -/
def raceEvents (first second : LoadEnv) (n₁ n₂ : Nat) : List (Event LoadEnv LoadPc) :=
  [.spawn .check, .spawn .check, .run 0 first, .run 1 second, .run 0 first, .run 1 second] ++
    (List.replicate n₁ (.run 0 first) ++ List.replicate n₂ (.run 1 second))

/-- **Two first runs race.** Where there is no file, two processes that nothing
else disturbs can both decide to create it; then each returns the identity it
drew, and the file keeps the second. -/
theorem first_runs_race (format : StateFormat) (path : StatePath) (hlawful : format.Lawful)
    (hparent : path.parent.isSome) (first second : LoadEnv) (hfirst : first.Smooth)
    (hsecond : second.Smooth) (json₁ json₂ : List UInt8)
    (hjson₁ : format.toVecPretty ⟨first.nodeId, first.privateKey⟩ = .ok json₁)
    (hjson₂ : format.toVecPretty ⟨second.nodeId, second.privateKey⟩ = .ok json₂) :
    ∃ events, let p := run (Pool.next (loadStep format path)) ⟨⟨none, false⟩, []⟩ events
      Returned p ⟨first.nodeId, first.privateKey⟩ ∧
      Returned p ⟨second.nodeId, second.privateKey⟩ ∧
      p.shared.state format = some ⟨second.nodeId, second.privateKey⟩ := by
  obtain ⟨parent, hparent⟩ := Option.isSome_iff_exists.mp hparent
  have hcheck (env : LoadEnv) (henv : env.Smooth) (file : StateFile)
      (hfile : file.content = none) : loadStep format path env file .check = (file, .createDir) := by
    simp only [loadStep, henv.1, loadOrCreateState, hfile]
    rfl
  have hcreate (env : LoadEnv) (henv : env.Smooth) (file : StateFile) (json : List UInt8)
      (hjson : format.toVecPretty ⟨env.nodeId, env.privateKey⟩ = .ok json) :
      loadStep format path env file .createDir =
        (file, .truncate ⟨env.nodeId, env.privateKey⟩ json) := by
    simp only [loadStep, henv.1, loadOrCreateState, hparent, henv.2.1, writeState, hjson]
    rfl
  have hdecided : run (Pool.next (loadStep format path)) ⟨⟨none, false⟩, []⟩
      [.spawn .check, .spawn .check, .run 0 first, .run 1 second, .run 0 first, .run 1 second] =
      ⟨⟨none, false⟩, [.truncate ⟨first.nodeId, first.privateKey⟩ json₁,
        .truncate ⟨second.nodeId, second.privateKey⟩ json₂]⟩ := by
    simp only [run_cons, run_nil, Pool.next, Pool.advance, List.nil_append, List.cons_append,
      List.getElem?_cons_zero, List.getElem?_cons_succ, hcheck first hfirst ⟨none, false⟩ rfl,
      hcheck second hsecond ⟨none, false⟩ rfl, hcreate first hfirst _ json₁ hjson₁,
      hcreate second hsecond _ json₂ hjson₂, List.set_cons_zero, List.set_cons_succ]
  obtain ⟨file₁, hsolo₁, -, -⟩ := loadStep_truncate_solo path hlawful hfirst hjson₁
    (decide_eq_false hfirst.2.2.2) ⟨none, false⟩ (json₁.length + 3) (Nat.le_refl _)
  obtain ⟨file₂, hsolo₂, hholds, -⟩ := loadStep_truncate_solo path hlawful hsecond
    hjson₂ (decide_eq_false hsecond.2.2.2) file₁ (json₂.length + 3) (Nat.le_refl _)
  refine ⟨raceEvents first second (json₁.length + 3) (json₂.length + 3), ?_⟩
  rw [raceEvents, run_append, hdecided, run_append,
    Pool.run_solo (loadStep format path) first _ (i := 0) rfl, hsolo₁,
    Pool.run_solo (loadStep format path) second _ (i := 1) rfl, hsolo₂]
  exact ⟨List.mem_cons_self, List.mem_cons_of_mem _ List.mem_cons_self, hholds.1⟩

end OngrokRelay
