import BringUp.Proofs.Dram.AddressSpace
import BringUp.Proofs.Dram.Coverage
import BringUp.Proofs.Dram.Rehearsal

/-! Memory that keeps its content. Main statement: the size check leaves every cell as it was
before, and so does a whole bring-up that starts no initialization of the memory. -/
namespace BringUp.Dram

open Detection (ram ram_probe)

variable {κ ω : Type} [DecidableEq κ] {mailboxes : Nat} {table : List Word}
  {blob : DeviceTree.Bytes} {options : Options}

/-- A probe of a chunk leaves the memory as it was. -/
theorem ram_chunk {size : Nat} (power : Coverage.isPowerOfTwo size = true)
    (small : size ≤ Coverage.chunkBytes) (place : Nat → κ) (start : Nat) (memory : κ → Cell) :
    (ram place (.probe start size) memory).2 = memory := by
  obtain ⟨exponent, rfl⟩ := isPowerOfTwo_iff.1 power
  have word : exponent < 64 :=
    (Nat.pow_lt_pow_iff_right (by decide : 1 < 2)).1 (Nat.lt_of_le_of_lt small (by decide))
  obtain ⟨found, probed, -⟩ := ram_probe word place start memory
  rw [probed]

theorem verifySize_keeps (place : Nat → κ) (memory : κ → Cell) (banks : List Bank) (size : Nat) :
    ((verifySize banks size).run (ram place) memory).2 = memory := by
  refine Program.view_run id _ fun event member state => ?_
  have run := Runs.of_run (ram place) (verifySize banks size) memory
  have checking := run.uses verifySize_uses_chunks event member
  obtain ⟨op, answer⟩ := event
  cases op with
  | probe start size => exact ram_chunk checking.1 checking.2 place start state
  | log _ _ => rfl
  | _ => exact checking.elim

/-- Memory beside the rest of a board. -/
structure Wiring (κ ω : Type) where
  /-- The cell of the memory behind each cell of the address space. -/
  place : Nat → κ
  /-- The addresses of the memory. All others belong to the rest of the board. -/
  mapped : Nat → Bool
  rest : (op : Op) → ω → op.Answer × ω
  /-- What the memory becomes when an IOSSM starts to initialize it. -/
  initialized : Nat → Iossm.Command → (κ → Cell) → ω → (κ → Cell)

namespace Wiring

variable {wiring : Wiring κ ω} {state : (κ → Cell) × ω}

/-- The rest of the board answers. -/
def elsewhere (wiring : Wiring κ ω) (op : Op) (state : (κ → Cell) × ω) :
    op.Answer × ((κ → Cell) × ω) :=
  let outcome := wiring.rest op state.2
  (outcome.1, state.1, outcome.2)

/-- The memory answers. -/
def inside (wiring : Wiring κ ω) (op : Op) (state : (κ → Cell) × ω) :
    op.Answer × ((κ → Cell) × ω) :=
  let outcome := ram wiring.place op state.1
  (outcome.1, outcome.2, state.2)

/-- The word at an address is the upper half of its cell. -/
def isUpper (address : Nat) : Bool :=
  wordBytes ≤ address % cellBytes

/-- The cell with another word at the address. -/
def withWord (address : Nat) (value : Word) (cell : Cell) : Cell :=
  if isUpper address then Cell.ofWords (Cell.low cell) value else Cell.ofWords value (Cell.high cell)

/-- Answers every question. The memory is reached by probes, by cells and by words, and is
initialized by an IOSSM. -/
def serve (wiring : Wiring κ ω) : (op : Op) → (κ → Cell) × ω → op.Answer × ((κ → Cell) × ω)
  | .probe start size, state => wiring.inside (.probe start size) state
  | .loadCell address, state =>
    if wiring.mapped address then wiring.inside (.loadCell address) state
    else wiring.elsewhere (.loadCell address) state
  | .storeCell address value, state =>
    if wiring.mapped address then wiring.inside (.storeCell address value) state
    else wiring.elsewhere (.storeCell address value) state
  | .load address, state =>
    if wiring.mapped address then
      let cell := state.1 (wiring.place (address / cellBytes))
      (if isUpper address then Cell.high cell else Cell.low cell, state)
    else wiring.elsewhere (.load address) state
  | .store address value, state =>
    if wiring.mapped address then
      let cell := state.1 (wiring.place (address / cellBytes))
      wiring.inside (.storeCell address (withWord address value cell)) state
    else wiring.elsewhere (.store address value) state
  | .request unit command, state =>
    let outcome := wiring.elsewhere (.request unit command) state
    if command.opcode = .startMemoryInit then
      (outcome.1, wiring.initialized unit command state.1 state.2, outcome.2.2)
    else outcome
  | op, state => wiring.elsewhere op state

/-- Questions that leave the memory as it is. -/
def Keeping (wiring : Wiring κ ω) : Op → Prop
  | .probe _ size => Coverage.isPowerOfTwo size = true ∧ size ≤ Coverage.chunkBytes
  | .storeCell _ _ => False
  | .store address _ => wiring.mapped address = false
  | .request _ command => command.opcode ≠ .startMemoryInit
  | _ => True

theorem serve_of_keeping {op : Op} (keeping : wiring.Keeping op) (state : (κ → Cell) × ω) :
    (wiring.serve op state).2.1 = state.1 := by
  cases op with
  | probe start size => exact ram_chunk keeping.1 keeping.2 wiring.place start state.1
  | storeCell _ _ => exact keeping.elim
  | store address value => simp only [serve, show wiring.mapped address = false from keeping]; rfl
  | request unit command =>
    simp only [serve, if_neg (show command.opcode ≠ .startMemoryInit from keeping)]
    rfl
  | load address =>
    simp only [serve]
    split <;> rfl
  | loadCell address =>
    simp only [serve]
    split <;> rfl
  | _ => rfl

omit [DecidableEq κ] in
theorem keeping_of_bringingUp {op : Op} (asked : BringingUp blob op)
    (unmapped : ∀ address, wiring.mapped address = true → ¬ IsWritten blob address)
    (other : ∀ unit command, op = .request unit command → command.opcode ≠ .startMemoryInit) :
    wiring.Keeping op := by
  cases op with
  | probe _ _ => exact asked
  | store address _ => exact Bool.eq_false_iff.2 fun mapped => unmapped address mapped asked
  | storeCell _ _ => exact asked
  | request unit command => exact other unit command rfl
  | _ => trivial

end Wiring

/-- The size check leaves every cell as it was, whatever it finds, and a bring-up that starts no
initialization of the memory does so too, if no register that it writes is in the memory. -/
theorem content_retained :
    (∀ (κ : Type) [DecidableEq κ] (place : Nat → κ) (memory : κ → Cell) (banks : List Bank)
      (size : Nat), ∃ outcome, (verifySize banks size).run (ram place) memory =
        (some outcome, memory)) ∧
    ∀ (κ ω : Type) [DecidableEq κ] (wiring : Wiring κ ω) (state : (κ → Cell) × ω)
      (mailboxes : Nat) (table : List Word) (blob : DeviceTree.Bytes) (options : Options),
      (∀ address, wiring.mapped address = true → ¬ IsWritten blob address) →
      (∀ request ∈ ((bringUp mailboxes table blob options).run.trace wiring.serve state).requests,
        request.2.1.opcode ≠ .startMemoryInit) →
      ((bringUp mailboxes table blob options).run.run wiring.serve state).2.1 = state.1 := by
  refine ⟨fun κ _ place memory banks size => ?_,
    fun κ ω _ wiring state mailboxes table blob options unmapped uninitialized => ?_⟩
  · obtain ⟨outcome, returned⟩ :=
      (verifySizeBy_returns : (verifySize banks size).Returns).run (ram place) memory
    exact ⟨outcome, Prod.ext returned (verifySize_keeps place memory banks size)⟩
  · refine Program.view_run Prod.fst _ fun event member other => ?_
    have run := Runs.of_run wiring.serve (bringUp mailboxes table blob options).run state
    have asked := run.uses bringUp_uses event member
    refine Wiring.serve_of_keeping (Wiring.keeping_of_bringingUp asked unmapped ?_) other
    intro unit command same
    obtain ⟨op, answer⟩ := event
    obtain rfl : op = .request unit command := same
    exact uninitialized _ (Trace.mem_requests.2 member)

theorem not_isWritten_of_window {address : Nat} (first : 0x80000000 ≤ address) :
    ¬ IsWritten Rehearsal.blob address := by
  have low : ∀ register ∈ [SystemManager.progress, Sideband.flagSet, SystemManager.mpfeConfig,
      Firewall.mpfeBase + 0xC], register < 0x80000000 := by decide
  simp only [List.forall_mem_cons] at low
  obtain ⟨progress, flags, lite, mpfe, -⟩ := low
  rintro (rfl | rfl | rfl | named | ⟨dmi, -, inside⟩ | ⟨-, inside⟩)
  · omega
  · omega
  · omega
  · exact Rehearsal.not_namedBySettings named
  · have below : dmi.base + 0xD0 < 0x80000000 := by cases dmi <;> decide
    omega
  · omega

/-- A gibibyte of memory on the board, with the number of each cell as its content. -/
def Rehearsal.wiring : Wiring Nat Rehearsal.Registers where
  place := fun cell => cell - 0x10000000
  mapped := fun address => 0x80000000 ≤ address && address < 0xC0000000
  rest := Rehearsal.serve id
  initialized := fun _ _ _ _ _ => 0

/-- The board with numbered cells after a warm reset. -/
def Rehearsal.numbered : (Nat → Cell) × Rehearsal.Registers :=
  (fun cell => BitVec.ofNat 64 cell, Rehearsal.afterWarmReset 0)

/-- A bring-up after a warm reset is successful, and all cells of the probed gibibyte keep their
content. -/
theorem content_retained_after_warm_reset :
    let bringUp := (bringUp 1 Rehearsal.table Rehearsal.blob {}).run
    let trace := bringUp.trace Rehearsal.wiring.serve Rehearsal.numbered
    let outcome := bringUp.run Rehearsal.wiring.serve Rehearsal.numbered
    (∀ address, Rehearsal.wiring.mapped address = true → ¬ IsWritten Rehearsal.blob address) ∧
      (∀ request ∈ trace.requests, request.2.1.opcode ≠ .startMemoryInit) ∧
      outcome.1 =
        some (.ok ⟨0x80000000, 0x40000000, [⟨0x80000000, 0x40000000⟩], .ddr5, true⟩) ∧
      outcome.2.1 = Rehearsal.numbered.1 := by
  have unmapped : ∀ address, Rehearsal.wiring.mapped address = true →
      ¬ IsWritten Rehearsal.blob address := by
    intro address mapped
    have first := (Bool.and_eq_true_iff.1 mapped).1
    exact not_isWritten_of_window (of_decide_eq_true first)
  have uninitialized : ∀ request ∈ ((bringUp 1 Rehearsal.table Rehearsal.blob {}).run.trace
      Rehearsal.wiring.serve Rehearsal.numbered).requests,
        request.2.1.opcode ≠ .startMemoryInit := by decide +kernel
  refine ⟨unmapped, uninitialized, by decide +kernel, ?_⟩
  exact content_retained.2 Nat Rehearsal.Registers Rehearsal.wiring Rehearsal.numbered 1
    Rehearsal.table Rehearsal.blob {} unmapped uninitialized

end BringUp.Dram
