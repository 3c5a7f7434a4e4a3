import CountBridge.Handle.Occurrence
import CountBridge.Program.Operation

/-!
Where the objects of a run lie. Memory is divided into regions, and all objects
of a run lie in one that no text of its program points into. So an address of an
object that is found in a text was written there by the object system. Texts may
be cut short on their way, so the beginnings of an address count as well.
-/

namespace CountBridge.Program

def regionSize : Nat := 0x100000000

/-- The region that is taken unless a text points into it. -/
def firstRegion : Nat := 0x7f31

/-- The regions, from the first on, that an address or one of its beginnings points into. -/
def regionsOf (address : Nat) : List Nat :=
  if regionSize * firstRegion ≤ address then
    address / regionSize :: regionsOf (address / 16)
  else []
termination_by address
decreasing_by
  have : 0 < regionSize * firstRegion := by decide
  omega

/-- Adds the regions that a text points into, from a place on. -/
def addRegionsFrom (bytes : ByteArray) (place : Nat) (taken : List Nat) : List Nat :=
  match _ : nextOccurrence bytes place with
  | none => taken
  | some found =>
    addRegionsFrom bytes found.stop ((regionsOf found.address).foldr List.insert taken)
termination_by bytes.size - place
decreasing_by
  have := lt_stop_of_nextOccurrence ‹_›
  omega

/-- The texts that an operation brings along. -/
def Action.texts : Action → List ByteArray
  | .newPlain _ given _ | .throwMessage _ given | .makeString given _ | .makeError given _
  | .panicText given => [given.toUTF8]
  | .newBytes _ bytes _ | .newString _ bytes _ => [bytes]
  | .stub stubs => (stubs.stringBytes.bind (·.1)).toList
  | _ => []

mutual

/-- Adds the regions that the texts of an operation and of its body point into. -/
def addRegions (taken : List Nat) : Op α → List Nat
  | .act action => action.texts.foldl (fun taken bytes => addRegionsFrom bytes 0 taken) taken
  | .attempt _ body _ | .hostTrap _ body _ | .runRoutine _ body _ | .trap body _ _
  | .guarded body _ | .scope body | .scoped _ body | .thread body _ | .trapFuture body _ _
  | .spawn body _ _ => addAllRegions taken body

def addAllRegions (taken : List Nat) : List (Op α) → List Nat
  | [] => taken
  | op :: rest => addAllRegions (addRegions taken op) rest

end

/-- The regions beyond a given one. -/
def beyond (taken : List Nat) (region : Nat) : List Nat := taken.filter (region < ·)

theorem length_beyond_lt {taken : List Nat} {region : Nat} (held : region ∈ taken) :
    (beyond taken region).length < taken.length :=
  List.length_filter_lt_length_iff_exists.mpr ⟨region, held, by simp⟩

/-- The first region from a given one on that is not taken. -/
def firstFree (taken : List Nat) (region : Nat) : Nat :=
  if region ∈ taken then firstFree (beyond taken region) (region + 1) else region
termination_by taken.length
decreasing_by exact length_beyond_lt ‹_›

theorem le_firstFree (taken : List Nat) (region : Nat) : region ≤ firstFree taken region := by
  fun_induction firstFree taken region with
  | case1 taken region held ih => omega
  | case2 => exact Nat.le_refl _

theorem firstFree_not_mem (taken : List Nat) (region : Nat) : firstFree taken region ∉ taken := by
  fun_induction firstFree taken region with
  | case1 taken region held ih =>
    have later := le_firstFree (beyond taken region) (region + 1)
    intro found
    exact ih (List.mem_filter.mpr ⟨found, decide_eq_true later⟩)
  | case2 taken region free => exact free

/-- Where the first object of a program's run lies. Nothing lies at the very beginning
of a region. -/
def origin (program : List (Op α)) : Nat :=
  regionSize * firstFree (addAllRegions [] program) firstRegion + Address.spacing

end CountBridge.Program
