import CartBoot.Register

/-!
# The register file

Each register has a value and a provenance. The zero register keeps the value zero and no
provenance: writes to it are dropped.
-/

namespace CartBoot

/-- What the register file knows about one register. -/
structure Slot where
  value : Word := 0
  provenance : Provenance := .none
  deriving DecidableEq, Repr

/-- The contents of the 32 registers. -/
structure RegisterFile where
  slots : Vector Slot 32
  deriving DecidableEq, Repr

namespace RegisterFile

/-- Every register zero and of no provenance. -/
def blank : RegisterFile := ⟨Vector.replicate 32 {}⟩

def slot (file : RegisterFile) (r : Register) : Slot := file.slots.get r

def value (file : RegisterFile) (r : Register) : Word := (file.slot r).value

def provenance (file : RegisterFile) (r : Register) : Provenance := (file.slot r).provenance

/-- Changes one register, unless it is the zero register. -/
def modify (file : RegisterFile) (r : Register) (change : Slot → Slot) : RegisterFile :=
  if r = Register.zero then file else ⟨file.slots.set r.val (change (file.slot r)) r.isLt⟩

def setValue (file : RegisterFile) (r : Register) (value : Word) : RegisterFile :=
  file.modify r fun slot => { slot with value }

def setProvenance (file : RegisterFile) (r : Register) (provenance : Provenance) : RegisterFile :=
  file.modify r fun slot => { slot with provenance }

/-- Writes a value together with the operation that made it. -/
def write (file : RegisterFile) (r : Register) (value : Word) (provenance : Provenance) :
    RegisterFile :=
  file.modify r fun _ => { value, provenance }

/-- The lowest-numbered register outside `excluded` that holds a value other than zero, or the zero
register when there is none. -/
def firstNonzero (file : RegisterFile) (excluded : List Register) : Register :=
  (Register.all.find? fun r => !excluded.contains r && file.value r != 0).getD Register.zero

/-- The registers that hold a value other than zero, by name. -/
def display (file : RegisterFile) (abi : Abi) : String :=
  let held := Register.all.filter fun r => file.value r != 0
  if held.isEmpty then "(all zero)"
  else " ".intercalate
    (held.map fun r => r.name abi ++ "=" ++ Text.Numeral.hex 8 (file.value r).toNat)

theorem slot_eq_getElem (file : RegisterFile) (r : Register) : file.slot r = file.slots[r.val] :=
  rfl

@[simp]
theorem slot_blank (r : Register) : blank.slot r = {} := by
  simp [blank, slot_eq_getElem]

theorem slot_modify (file : RegisterFile) (r s : Register) (change : Slot → Slot) :
    (file.modify r change).slot s =
      if s = r ∧ r ≠ Register.zero then change (file.slot r) else file.slot s := by
  by_cases zero : r = Register.zero
  · simp [modify, zero]
  · by_cases same : s = r
    · subst same
      simp [modify, zero, slot_eq_getElem]
    · have apart : r.val ≠ s.val := fun h => same (Fin.ext h.symm)
      simp [modify, zero, same, slot_eq_getElem, apart]

end RegisterFile

end CartBoot
