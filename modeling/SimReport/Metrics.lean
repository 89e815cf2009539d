/-
What one simulator run measured: its exit code and nine counters, and the
figures derived from them.  Sums are natural numbers, so they never wrap.
-/
import SimReport.Binary64

namespace SimReport

inductive Counter
  | instructions
  | cycles
  | jumps
  | branches
  | loads
  | stores
  | instructionFetches
  | writeRequests
  | readRequests
  deriving DecidableEq

namespace Counter

def all : List Counter :=
  [instructions, cycles, jumps, branches, loads, stores, instructionFetches, writeRequests,
    readRequests]

theorem mem_all (c : Counter) : c ∈ all := by cases c <;> decide

end Counter

/-- A counter that was not reported is zero. -/
structure Counters where
  instructions : UInt64 := 0
  cycles : UInt64 := 0
  jumps : UInt64 := 0
  branches : UInt64 := 0
  loads : UInt64 := 0
  stores : UInt64 := 0
  instructionFetches : UInt64 := 0
  writeRequests : UInt64 := 0
  readRequests : UInt64 := 0
  deriving DecidableEq

namespace Counters

def get (cs : Counters) : Counter → UInt64
  | .instructions => cs.instructions
  | .cycles => cs.cycles
  | .jumps => cs.jumps
  | .branches => cs.branches
  | .loads => cs.loads
  | .stores => cs.stores
  | .instructionFetches => cs.instructionFetches
  | .writeRequests => cs.writeRequests
  | .readRequests => cs.readRequests

def set (cs : Counters) (c : Counter) (value : UInt64) : Counters :=
  match c with
  | .instructions => { cs with instructions := value }
  | .cycles => { cs with cycles := value }
  | .jumps => { cs with jumps := value }
  | .branches => { cs with branches := value }
  | .loads => { cs with loads := value }
  | .stores => { cs with stores := value }
  | .instructionFetches => { cs with instructionFetches := value }
  | .writeRequests => { cs with writeRequests := value }
  | .readRequests => { cs with readRequests := value }

theorem ext_get {a b : Counters} (h : ∀ c, a.get c = b.get c) : a = b := by
  cases a; cases b
  have h1 := h .instructions
  have h2 := h .cycles
  have h3 := h .jumps
  have h4 := h .branches
  have h5 := h .loads
  have h6 := h .stores
  have h7 := h .instructionFetches
  have h8 := h .writeRequests
  have h9 := h .readRequests
  simp only [get] at h1 h2 h3 h4 h5 h6 h7 h8 h9
  subst h1 h2 h3 h4 h5 h6 h7 h8 h9
  rfl

/-- The nine counters are independent of each other. -/
theorem get_set (cs : Counters) (c d : Counter) (value : UInt64) :
    (cs.set c value).get d = if d = c then value else cs.get d := by
  cases c <;> cases d <;> rfl

end Counters

structure Metrics where
  exitCode : Option UInt64 := none
  counters : Counters := {}
  deriving DecidableEq

namespace Metrics

/-- A run succeeds when it exits with code zero.  An exit code that could not be
read is a failure. -/
def succeeded (m : Metrics) : Bool := m.exitCode == some 0

/-- Instructions per cycle, each count taken as the nearest double, and zero for
a run without cycles. -/
def ipc (m : Metrics) : Binary64 :=
  if m.counters.cycles = 0 then .zero
  else .ofQuotient (Binary64.nearestInteger m.counters.instructions.toNat)
    (Binary64.nearestInteger m.counters.cycles.toNat)

def controlTransfers (m : Metrics) : Nat :=
  m.counters.jumps.toNat + m.counters.branches.toNat

def dataAccesses (m : Metrics) : Nat :=
  m.counters.loads.toNat + m.counters.stores.toNat

def memoryRequests (m : Metrics) : Nat :=
  m.counters.instructionFetches.toNat + m.counters.readRequests.toNat +
    m.counters.writeRequests.toNat

theorem succeeded_iff (m : Metrics) : m.succeeded = true ↔ m.exitCode = some 0 := by
  simp [succeeded]

end Metrics
end SimReport
