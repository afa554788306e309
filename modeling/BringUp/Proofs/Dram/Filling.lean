import BringUp.Proofs.Dram.Agreement
import BringUp.Proofs.Dram.SecureMonitor

/-! The banks of memory that only the hardware knows. Main statement: they lie in the first windows,
all but the last one are whole windows, they hold as much as fits, and they are apart and in order.
-/
namespace BringUp.Dram

variable {remaining size count index : Nat} {bank : Bank}

/-- Only the last bank may leave some of its window free. -/
theorem dropLast_fill_windows (windows : List Bank) (remaining : Nat) :
    (fill windows remaining).dropLast <+: windows := by
  induction windows generalizing remaining with
  | nil => exact List.nil_prefix
  | cons window rest ih =>
    rw [fill]
    split
    · exact List.nil_prefix
    · have later := ih (remaining - min remaining window.size)
      dsimp only
      cases further : fill rest (remaining - min remaining window.size) with
      | nil => exact List.nil_prefix
      | cons bank others =>
        have left : remaining - min remaining window.size ≠ 0 := by
          intro none
          rw [none] at further
          cases rest <;> simp [fill] at further
        have whole : min remaining window.size = window.size := by omega
        rw [further] at later
        rw [List.dropLast_cons_cons, whole, List.cons_prefix_cons]
        exact ⟨rfl, later⟩

theorem size_pos_of_mem_fill {windows : List Bank} (wide : ∀ window ∈ windows, 0 < window.size)
    (member : bank ∈ fill windows remaining) : 0 < bank.size := by
  induction windows generalizing remaining with
  | nil => cases member
  | cons window rest ih =>
    rw [fill] at member
    split at member
    · cases member
    · next remains =>
      rcases List.mem_cons.1 member with rfl | later
      · exact Nat.lt_min.2 ⟨Nat.pos_of_ne_zero remains, wide window List.mem_cons_self⟩
      · exact ih (fun window member => wide window (List.mem_cons_of_mem _ member)) later

/-- The banks are apart and in order if the windows are. -/
theorem pairwise_fill {windows : List Bank} (remaining : Nat)
    (apart : windows.Pairwise fun window later => window.start + window.size ≤ later.start) :
    (fill windows remaining).Pairwise fun bank later => bank.start + bank.size ≤ later.start := by
  induction windows generalizing remaining with
  | nil => exact .nil
  | cons window rest ih =>
    obtain ⟨first, others⟩ := List.pairwise_cons.1 apart
    rw [fill]
    split
    · exact .nil
    · refine List.pairwise_cons.2 ⟨fun later member => ?_, ih _ others⟩
      obtain ⟨index, found⟩ := List.mem_iff_getElem?.1 member
      obtain ⟨window', place, start, -⟩ := getElem?_fill found
      have beyond := first window' (List.mem_of_getElem? place)
      rw [start]
      dsimp only
      omega

/-- What holds of the banks that a memory of this size fills, if so many of them may be used. -/
structure Filling (size count : Nat) (banks : List Bank) : Prop where
  few : banks.length ≤ min count 3
  /-- The banks lie in the windows with their numbers. -/
  placed : ∀ (index : Nat) (bank : Bank), banks[index]? = some bank →
    ∃ window, windows[index]? = some window ∧ bank.start = window.start ∧ 0 < bank.size ∧
      bank.size ≤ window.size
  /-- All but the last one are the windows themselves. -/
  whole : banks.dropLast <+: windows
  total : totalSize banks = min size (totalSize (windows.take (min count 3)))
  apart : banks.Pairwise fun bank later =>
    bank.start < later.start ∧ bank.start + bank.size ≤ later.start
  below : ∀ bank ∈ banks, bank.start + bank.size ≤ windowSpace ∧ bank.last < windowSpace
  /-- The registers of a window hold the ends of the bank, also where its first mebibyte stays
  closed. -/
  held : ∀ (index : Nat) (bank : Bank), banks[index]? = some bank → ∀ secureMonitor,
    ∀ address ∈ [bank.start, firstOpen secureMonitor index bank, bank.last],
      windowAddress (lowWord address) (extensionWord address) = address

theorem windows_below : ∀ window ∈ windows,
    window.start + window.size ≤ windowSpace ∧ window.start + mebibyte < windowSpace := by
  decide

theorem take_windows (count : Nat) :
    windows.take (min count maxBanks) = windows.take (min count 3) := by
  rw [List.take_eq_take_iff]
  simp only [windows, maxBanks, List.length_cons, List.length_nil]
  omega

theorem getElem?_fill_windows
    (found : (fill (windows.take (min count 3)) size)[index]? = some bank) :
    ∃ window, windows[index]? = some window ∧ bank.start = window.start ∧ 0 < bank.size ∧
      bank.size ≤ window.size := by
  have wide : ∀ window ∈ windows, 0 < window.size := by decide
  obtain ⟨window, place, start, inside⟩ := getElem?_fill found
  have positive := size_pos_of_mem_fill
    (fun window member => wide window (List.mem_of_mem_take member)) (List.mem_of_getElem? found)
  rw [List.getElem?_take] at place
  split at place
  · exact ⟨window, place, start, positive, inside⟩
  · cases place

theorem windowAddress_of_lt {address : Nat} (inside : address < windowSpace) :
    windowAddress (lowWord address) (extensionWord address) = address :=
  windowAddress_words.trans (Nat.mod_eq_of_lt inside)

theorem filling_fill (size count : Nat) :
    Filling size count (fill (windows.take (min count 3)) size) := by
  have below {index : Nat} {bank : Bank}
      (found : (fill (windows.take (min count 3)) size)[index]? = some bank) :
      bank.start + bank.size ≤ windowSpace ∧ bank.last < windowSpace ∧
        bank.start + mebibyte < windowSpace := by
    obtain ⟨window, place, start, positive, inside⟩ := getElem?_fill_windows found
    obtain ⟨ends, room⟩ := windows_below window (List.mem_of_getElem? place)
    simp only [Bank.last]
    omega
  constructor
  case few => exact (length_fill_le _ _).trans (List.length_take_le _ _)
  case placed => exact fun index bank => getElem?_fill_windows
  case whole => exact (dropLast_fill_windows _ _).trans (List.take_prefix _ _)
  case total => exact totalSize_fill _ _
  case apart =>
    have ascending : windows.Pairwise fun window later =>
        window.start + window.size ≤ later.start := by decide
    refine (pairwise_fill size (ascending.sublist (List.take_sublist _ _))).imp_of_mem ?_
    intro bank later member _ beyond
    obtain ⟨index, found⟩ := List.mem_iff_getElem?.1 member
    obtain ⟨_, -, -, positive, -⟩ := getElem?_fill_windows found
    omega
  case below =>
    intro bank member
    obtain ⟨index, found⟩ := List.mem_iff_getElem?.1 member
    exact ⟨(below found).1, (below found).2.1⟩
  case held =>
    intro index bank found secureMonitor address named
    obtain ⟨ends, last, room⟩ := below found
    have start : bank.start < windowSpace := by omega
    simp only [List.mem_cons, List.not_mem_nil, or_false] at named
    apply windowAddress_of_lt
    rcases named with rfl | rfl | rfl
    · exact start
    · unfold firstOpen
      split
      · exact room
      · exact start
    · exact last

theorem returns_banksOfSize : (banksOfSize size count).Returns := by
  have told {text : String} {banks : List Bank} :
      (do Program.log .warning text; return banks : Program (List Bank)).Returns :=
    fun _ => trivial
  unfold banksOfSize
  dsimp only
  split
  · refine fun _ => ?_
    change Program.Returns (ite _ _ _)
    split
    · exact told
    · trivial
  · split
    · exact told
    · trivial

/-- Memory of every size gives banks that fill the windows in use. -/
theorem banks_filled {trace : Trace} {outcome : Option (List Bank)}
    (run : Runs (banksOfSize size count) trace outcome) :
    ∃ banks, outcome = some banks ∧ Filling size count banks := by
  obtain ⟨banks, rfl⟩ := run.returned returns_banksOfSize
  refine ⟨banks, rfl, ?_⟩
  rw [banksOfSize_eq run, take_windows]
  exact filling_fill size count

/-- Memory of 8 GiB takes the first window and a part of the second one. That there are only three
windows is told, and does not matter. -/
theorem banks_filled_eight_gibibytes :
    let banks : List Bank := [⟨0x80000000, 2 * gibibyte⟩, ⟨0x880000000, 6 * gibibyte⟩]
    let filling := banksOfSize (8 * gibibyte) 4
    Runs filling (filling.trace (Rehearsal.serve id) fun _ => 0) (some banks) ∧
      Filling (8 * gibibyte) 4 banks := by
  intro banks filling
  have ended : (filling.run (Rehearsal.serve id) fun _ => 0).1 = some banks := by decide +kernel
  have run := Runs.of_run_eq (Rehearsal.serve id) _ ended
  obtain ⟨_, same, filled⟩ := banks_filled run
  cases same
  exact ⟨run, filled⟩

end BringUp.Dram
