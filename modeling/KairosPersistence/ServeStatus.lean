import KairosPersistence.IsoDatetime
import KairosPersistence.ReadonlyEvidence

/-!
`observe_runtime_epoch_serve_status`: what the exporter makes of the status file
of a runtime epoch, whatever its bytes are.
-/

namespace KairosPersistence

namespace ServeStatus

open FrameDepth (Measured Stop)
open IsoDatetime (PyDatetime fromisoformat)
open JsonBytes (CodePoints JsonFault Loaded loads points)
open PythonText (Timestamp)
open Transactions (bind_ok ok_bind require require_ok require_pos found found_ok found_some)

section Files

/-- What `lstat` and `fstat` tell of a file. -/
structure FileStat where
  regular : Bool
  size : ℕ
  identity : ℕ × ℕ
  reparsePoint : Bool

inductive FileFailure where
  | fileNotFound
  | other

/-- What the file system answers, call by call. -/
structure StatusFile where
  isSymlink : Except FileFailure Bool
  lstat : Except FileFailure FileStat
  fstat : Except FileFailure FileStat
  content : Except FileFailure (List UInt8)

inductive EpochState where
  | running
  | catchingUp
  | waitingSource
  | stale
  | failedClosed
  | missing
  | invalid
  | unknownOwner
  deriving DecidableEq, Repr

/-- The state and the reason of an observation that ends early. -/
abbrev Verdict := EpochState × Option String

def invalid (reason : String) : Verdict := (.invalid, some reason)

def FileFailure.verdict : FileFailure → Verdict
  | .fileNotFound => (.missing, none)
  | .other => invalid "unreadable_or_invalid_json"

def maxBytes : ℕ := 32768

/-- The bytes of the file. -/
def StatusFile.read (file : StatusFile) : Except Verdict (List UInt8) := do
  let info ← file.lstat.mapError FileFailure.verdict
  let isSymlink ← file.isSymlink.mapError FileFailure.verdict
  require (¬(isSymlink ∨ info.reparsePoint ∨ ¬info.regular ∨ maxBytes < info.size)) (invalid "unsafe_status_file")
  let opened ← file.fstat.mapError FileFailure.verdict
  require (¬(¬opened.regular ∨ maxBytes < opened.size ∨ opened.identity ≠ info.identity ∨ opened.reparsePoint))
    (invalid "status_file_identity_changed")
  let content ← file.content.mapError FileFailure.verdict
  let raw := content.take (maxBytes + 1)
  require (raw.length ≤ maxBytes) (invalid "status_too_large")
  pure raw

/-- A regular file that stays as it is. -/
def StatusFile.regular (identity : ℕ × ℕ) (raw : List UInt8) : StatusFile where
  isSymlink := .ok false
  lstat := .ok ⟨true, raw.length, identity, false⟩
  fstat := .ok ⟨true, raw.length, identity, false⟩
  content := .ok raw

end Files

section Contract

/-- `_unique_json_object`. -/
def uniqueJsonObject (pairs : List (CodePoints × Loaded)) : Option Loaded :=
  (pairs.foldlM (fun (value : List (CodePoints × Loaded)) pair =>
    if value.any (·.1 = pair.1) then none else some (value ++ [pair])) []).map .dict

def field (fields : List (CodePoints × Loaded)) (key : String) : Option Loaded :=
  (fields.find? (·.1 = points key)).map Prod.snd

/-- `value.get(key)`. -/
def get (fields : List (CodePoints × Loaded)) (key : String) : Loaded := (field fields key).getD .null

def isNone : Loaded → Bool
  | .null => true
  | _ => false

def isFalse : Loaded → Bool
  | .bool b => !b
  | _ => false

def isTrue : Loaded → Bool
  | .bool b => b
  | _ => false

def symbols : List String := ["BTCUSDT", "ETHUSDT", "SOLUSDT", "BNBUSDT", "XRPUSDT"]

end Contract

section Observation

/-- The stack of the interpreter when the scanner starts: the frames that it has left, and those that the call of the
object hook enters. -/
structure Stack where
  left : ℕ
  hookFrames : ℕ

/-- `stale_after_seconds` is `none` if it is no finite number. -/
structure Arguments where
  expectedOwner : String
  now : Option PyDatetime
  staleAfterSeconds : Option Binary64

/-- `[0-9a-f]{32}\Z`. -/
def isEpochOwner (owner : String) : Bool := owner.length = 32 && owner.toList.all ("0123456789abcdef".toList.contains ·)

end Observation

section Reading

/-- What `json.loads` makes of the bytes on a stack without end. -/
def loaded (stack : Stack) (raw : List UInt8) : Measured JsonFault Loaded :=
  loads stack.hookFrames uniqueJsonObject (raw.map UInt8.toNat)

/-- The text that the file has for the time of the observation. -/
def observedAt (stack : Stack) (raw : List UInt8) : Option CodePoints :=
  match (loaded stack raw).outcome with
  | .ok (.dict fields) =>
    match get fields "observed_at_utc" with
    | .str text => some text
    | _ => none
  | _ => none

/-- What the function demands of its arguments. -/
structure Arguments.Valid (args : Arguments) : Prop where
  owner : isEpochOwner args.expectedOwner
  staleAfter : ∃ seconds, args.staleAfterSeconds = some seconds ∧ 0 < seconds.scaled
  now : ∀ now ∈ args.now, now.utcoffset.isSome

variable {fields : List (CodePoints × Loaded)} {expectedOwner : String} {nowUtc : Timestamp} {staleAfter : Binary64}

section Example

end Example

end Reading

end ServeStatus

end KairosPersistence
