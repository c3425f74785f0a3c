import Mathlib.Data.UInt
import VirtualServiceGateway.Foundation.CheckedOperation
import VirtualServiceGateway.Foundation.Execution
import VirtualServiceGateway.Foundation.RankedList
import VirtualServiceGateway.Foundation.TextExtraction

/-!
# The DPI classifier

The classifier keeps a vector of signatures and returns the classification of the first one that
matches a payload. Three calls change the vector: a file load appends the parsed lines and sorts,
an update replaces the first signature with the id or appends, a removal erases the first one.
The draw of `rand` and the two clock readings around the matcher are arguments of `classify`.
-/

namespace VirtualServiceGateway.Dpi

open CheckedOperation TextExtraction RankedList

/-- A value of the enumeration's underlying type. The enumerators are the codes below 16, but a
cast makes a result of any code. -/
structure ClassificationResult where
  code : UInt8
  deriving DecidableEq, Repr

def ClassificationResult.unknown : ClassificationResult := ⟨0⟩

structure DPISignature where
  signatureId : UInt16
  classification : ClassificationResult
  pattern : List UInt8
  offset : UInt32
  depth : UInt32
  stateless : Bool
  priority : UInt32
  deriving DecidableEq, Repr

structure DPIGuardrails where
  timeoutUs : UInt32
  maxPayloads : UInt32
  sampleRate : UInt32
  degradationEnabled : Bool
  deriving DecidableEq, Repr

/-- A payload pointer with a length that all of its bytes are readable for. -/
structure Payload where
  bytes : List UInt8
  length_lt : bytes.length < 2 ^ 32

def Payload.len (payload : Payload) : UInt32 := UInt32.ofNat payload.bytes.length

structure DPIClassifier where
  signatures : List DPISignature
  guardrails : DPIGuardrails
  degraded : Bool
  classificationCounts : Vector UInt64 16

/-- What a `classify` call does: its result, the classifier after it, and the index of the count it
increments, in range or not. -/
structure Classified where
  result : ClassificationResult
  classifier : DPIClassifier
  incremented : Option ℕ

/-! ## Matching -/

/-- The search loop from counter `i` on: is the pattern at `start + i` for some `i` up to the
limit? The 32-bit counter passes through its values at most once. -/
def searchFrom (bytes pattern : List UInt8) (start limit : ℕ) : ℕ → UInt32 → Except Fault Bool
  | 0, _ => .error .endless
  | fuel + 1, i =>
      if i.toNat ≤ limit then do
        let block ← readBlock bytes (start + i.toNat) pattern.length
        if block = pattern then pure true
        else searchFrom bytes pattern start limit fuel (i + 1)
      else pure false

/-- The scan over the signatures, in list order. -/
def matchFrom (payload : Payload) : List DPISignature → Except Fault ClassificationResult
  | [] => pure .unknown
  | sig :: rest =>
      if payload.len ≤ sig.offset then matchFrom payload rest
      else
        let searchLen := min sig.depth (payload.len - sig.offset)
        if sig.pattern.length ≤ searchLen.toNat then do
          let found ← searchFrom payload.bytes sig.pattern sig.offset.toNat
            (searchLen.toNat - sig.pattern.length) (2 ^ 32) 0
          if found then pure sig.classification else matchFrom payload rest
        else matchFrom payload rest

namespace DPIClassifier

def create (guardrails : DPIGuardrails) : DPIClassifier where
  signatures := []
  guardrails := guardrails
  degraded := false
  classificationCounts := Vector.replicate 16 0

def matchSignatures (classifier : DPIClassifier) (payload : Payload) :
    Except Fault ClassificationResult :=
  matchFrom payload classifier.signatures

/-- The sampling check. The draw is taken modulo the sample rate in degraded mode only. -/
def sampledOut (classifier : DPIClassifier) (draw : UInt32) : Except Fault Bool :=
  if classifier.degraded then do
    let position ← remainder draw classifier.guardrails.sampleRate
    pure (position ≠ 0)
  else pure false

/-- The measured time: nanosecond readings, truncated to microseconds, stored in 32 bits. -/
def elapsedUs (start stop : Int64) : UInt32 := ((stop - start) / 1000).toUInt64.toUInt32

/-- The end of `classify`, once the matcher has returned: the timeout check and the counters. -/
def settle (classifier : DPIClassifier) (result : ClassificationResult) (elapsed : UInt32) :
    Classified :=
  if classifier.guardrails.timeoutUs < elapsed then
    ⟨.unknown, { classifier with degraded := classifier.guardrails.degradationEnabled }, none⟩
  else if result ≠ .unknown then
    let index := result.code.toNat
    let counts := classifier.classificationCounts
    let counts := if h : index < 16 then counts.set index (counts[index] + 1) else counts
    ⟨result, { classifier with classificationCounts := counts }, some index⟩
  else ⟨result, classifier, none⟩

/-- Classify a payload; `none` is the null pointer. -/
def classify (classifier : DPIClassifier) (payload : Option Payload) (draw : UInt32)
    (start stop : Int64) : Except Fault Classified :=
  match payload with
  | none => pure ⟨.unknown, classifier, none⟩
  | some payload =>
      if payload.len = 0 then pure ⟨.unknown, classifier, none⟩
      else do
        if ← classifier.sampledOut draw then
          pure ⟨.unknown, classifier, none⟩
        else
          let result ← classifier.matchSignatures payload
          pure (classifier.settle result (elapsedUs start stop))

/-! ## Signature management -/

/-- The comparator of the sort: higher priority first. -/
def higherPriority (first second : DPISignature) : Bool := second.priority < first.priority

/-- One line of a signature file. All five extractions have to succeed; the class is extracted into
an unsigned char. -/
def parseLine (line : Text) : Option DPISignature := do
  let (sigId, rest) ← extractUnsigned 16 line
  let (classVal, rest) ← extractByte rest
  let (pattern, rest) ← extractWord rest
  let (offset, rest) ← extractUnsigned 32 rest
  let (depth, _) ← extractUnsigned 32 rest
  some
    { signatureId := UInt16.ofNat sigId
      classification := ⟨classVal⟩
      pattern := pattern
      offset := UInt32.ofNat offset
      depth := UInt32.ofNat depth
      stateless := true
      priority := 0 }

def commentMark : UInt8 := 35

/-- The signatures of a file, in file order. Empty lines, comments and lines that do not parse are
skipped. -/
def readSignatures (file : Text) : List DPISignature :=
  (getlines file).filterMap fun line ↦
    if line = [] ∨ line.head? = some commentMark then none else parseLine line

/-- Load a file; `none` is one that cannot be opened. -/
def loadSignatures (sorter : Sorter higherPriority) (classifier : DPIClassifier) :
    Option Text → Bool × DPIClassifier
  | none => (false, classifier)
  | some file =>
      (true, { classifier with
        signatures := sorter.sort (classifier.signatures ++ readSignatures file) })

/-- Position of the first signature with the id. -/
def find (classifier : DPIClassifier) (signatureId : UInt16) : Option ℕ :=
  classifier.signatures.findIdx? fun sig ↦ sig.signatureId = signatureId

def updateSignature (classifier : DPIClassifier) (sig : DPISignature) : DPIClassifier :=
  match classifier.find sig.signatureId with
  | some place => { classifier with signatures := classifier.signatures.set place sig }
  | none => { classifier with signatures := classifier.signatures ++ [sig] }

def removeSignature (classifier : DPIClassifier) (signatureId : UInt16) : DPIClassifier :=
  match classifier.find signatureId with
  | some place => { classifier with signatures := classifier.signatures.eraseIdx place }
  | none => classifier

def setGuardrails (classifier : DPIClassifier) (guardrails : DPIGuardrails) : DPIClassifier :=
  { classifier with guardrails := guardrails, degraded := false }

end DPIClassifier

/-! ## Runs -/

/-- A call on the classifier. -/
inductive Call where
  | loadSignatures (file : Option Text)
  | updateSignature (sig : DPISignature)
  | removeSignature (signatureId : UInt16)
  | setGuardrails (guardrails : DPIGuardrails)
  | classify (payload : Option Payload) (draw : UInt32) (start stop : Int64)

namespace DPIClassifier

/-- The classifier after a call. A `classify` without a defined result leaves it as it was. -/
def step (sorter : Sorter higherPriority) (classifier : DPIClassifier) : Call → DPIClassifier
  | .loadSignatures file => (classifier.loadSignatures sorter file).2
  | .updateSignature sig => classifier.updateSignature sig
  | .removeSignature signatureId => classifier.removeSignature signatureId
  | .setGuardrails guardrails => classifier.setGuardrails guardrails
  | .classify payload draw start stop =>
      match classifier.classify payload draw start stop with
      | .ok classified => classified.classifier
      | .error _ => classifier

/-- The classifier after the calls, oldest first. -/
def after (sorter : Sorter higherPriority) (guardrails : DPIGuardrails) (calls : List Call) :
    DPIClassifier :=
  Execution.run (step sorter) (create guardrails) calls

end DPIClassifier

end VirtualServiceGateway.Dpi
