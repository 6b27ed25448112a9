import ReplayFlow.Recording.Normalize
import ReplayFlow.Run

/-!
Batches: the transactions read so far by their codes, and the recordings that
were skipped. A recording takes the place of an earlier one of its transaction.
-/

namespace ReplayFlow

/-- A recording to be read: where it comes from and the code it goes by there. -/
structure Entry where
  source : String
  tcode : String
  document : Json

/-- A recording that could not be read. -/
structure Skipped where
  tcode : String
  source : String
  reason : String
  deriving DecidableEq

structure Batch where
  transactions : OrderedMap Transaction := ∅
  skipped : List Skipped := []

namespace Entry

/-- The transaction a fault belongs to, if it says so. -/
def faultTcode (e : Entry) : Fault → String
  | .malformed cause => if cause.tcode = "" then e.tcode else cause.tcode
  | _ => e.tcode

/-- The analyzed transaction of an entry. -/
def transaction (e : Entry) : Except Skipped Transaction :=
  match (Recording.ofDocument e.document e.tcode).normalize with
  | .ok t => .ok t.analyze
  | .error fault => .error ⟨e.faultTcode fault, e.source, fault.message⟩

end Entry

namespace Batch

def skip (b : Batch) (skipped : Skipped) : Batch := { b with skipped := b.skipped ++ [skipped] }

/-- Takes in one entry. -/
def add (b : Batch) (e : Entry) : Batch × List Notice :=
  match e.transaction with
  | .error skipped => (b.skip skipped, [.skipped e.source skipped.reason])
  | .ok t =>
    ({ b with transactions := b.transactions.insert t.tcode t },
      if b.transactions.contains t.tcode then [.replaced t.tcode e.source] else [])

/-- Takes in entries in order. -/
def addAll (b : Batch) : List Entry → Batch × List Notice
  | [] => (b, [])
  | e :: rest =>
    let (b, notices) := b.add e
    let (b, more) := addAll b rest
    (b, notices ++ more)

end Batch

end ReplayFlow
