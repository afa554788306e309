import BringUp.Handoff.Table
import BringUp.Proofs.Iossm.Responder

/-! Reading a handoff table. Main statement: what reading comes to, and which words it looks at,
follows from the content of the memory. The header decides, and then the words are copied. -/
namespace BringUp

/-- Every load of the trace is answered by what memory holds at its address. -/
def Trace.Shows (content : Nat → Word) (trace : Trace) : Prop :=
  ∀ address (answer : Word), ⟨.load address, answer⟩ ∈ trace → answer = content address

/-- Memory that nobody writes to. The other questions get blank answers. -/
def fixedMemory (content : Nat → Word) : (op : Op) → Unit → op.Answer × Unit
  | .load address, _ => (content address, ())
  | op, _ => (Iossm.Responder.blank op, ())

theorem shows_fixedMemory {α : Type} {content : Nat → Word} (p : Program α) (state : Unit) :
    (p.trace (fixedMemory content) state).Shows content := by
  induction p with
  | done _ => exact fun _ _ member => absurd member List.not_mem_nil
  | fault => exact fun _ _ member => absurd member List.not_mem_nil
  | ask op next ih =>
    intro address answer member
    obtain same | later := List.mem_cons.1 member
    · cases same
      rfl
    · exact ih _ address answer later

namespace Trace.Shows

variable {content : Nat → Word} {first second : Trace} {address : Nat} {answer : Word}

theorem left (shows : Trace.Shows content (first ++ second)) : Trace.Shows content first :=
  fun address answer member => shows address answer (List.mem_append_left _ member)

theorem head (shows : Trace.Shows content (⟨.load address, answer⟩ :: second)) :
    answer = content address :=
  shows address answer List.mem_cons_self

theorem tail {event : Event} (shows : Trace.Shows content (event :: second)) :
    Trace.Shows content second :=
  fun address answer member => shows address answer (List.mem_cons_of_mem _ member)

end Trace.Shows

namespace Handoff

variable {content : Nat → Word} {address count : Nat} {magic : Word} {table : List Word}
  {trace : Trace}

/-- The words of memory from an address on. -/
def wordsAt (content : Nat → Word) (address count : Nat) : List Word :=
  (List.range count).map fun index => content (address + 4 * index)

/-- The loads of these words. -/
def fetches (content : Nat → Word) (address count : Nat) : Trace :=
  (List.range count).map fun index => ⟨.load (address + 4 * index), content (address + 4 * index)⟩

/-- The length of the blob in bytes, as its header declares it. -/
def declared (content : Nat → Word) (address : Nat) : Nat := (content (address + 4)).toNat

/-- A length that a blob of whole words with its header can have. -/
def WellFormed (length : Nat) : Prop := headerBytes ≤ length ∧ length % 4 = 0

/-- Number of data words in a blob of this length. -/
def dataWords (length : Nat) : Nat := (length - headerBytes) / 4

@[simp] theorem length_wordsAt : (wordsAt content address count).length = count := by
  simp [wordsAt]

theorem getElem?_wordsAt {index : Nat} (inside : index < count) :
    (wordsAt content address count)[index]? = some (content (address + 4 * index)) := by
  simp [wordsAt, inside]

theorem wordsAt_succ : wordsAt content address (count + 1) =
    content address :: wordsAt content (address + 4) count := by
  simp only [wordsAt, List.range_succ_eq_map, List.map_cons, List.map_map]
  congr 1
  refine List.map_congr_left fun index _ => congrArg content ?_
  change address + 4 * (index + 1) = _
  omega

theorem fetches_succ : fetches content address (count + 1) =
    ⟨.load address, content address⟩ :: fetches content (address + 4) count := by
  simp only [fetches, List.range_succ_eq_map, List.map_cons, List.map_map]
  congr 1
  refine List.map_congr_left fun index _ => ?_
  change (⟨.load (address + 4 * (index + 1)), content (address + 4 * (index + 1))⟩ : Event) = _
  rw [show address + 4 * (index + 1) = address + 4 + 4 * index by omega]

theorem op_of_mem_fetches {event : Event} (member : event ∈ fetches content address count) :
    ∃ index < count, event.op = .load (address + 4 * index) := by
  obtain ⟨index, inside, rfl⟩ := List.mem_map.1 member
  exact ⟨index, List.mem_range.1 inside, rfl⟩

/-- As many entries of the table are replaced as there are words to copy. -/
theorem runs_copyWords {outcome : Option (List Word)} (room : count ≤ table.length)
    (shows : trace.Shows content) (run : Runs (copyWords count address table) trace outcome) :
    trace = fetches content address count ∧
      outcome = some (wordsAt content address count ++ table.drop count) := by
  induction count generalizing address table trace outcome with
  | zero =>
    obtain ⟨rfl, rfl⟩ := Runs.done_iff.1 run
    exact ⟨rfl, rfl⟩
  | succ count ih =>
    cases table with
    | nil => cases room
    | cons old rest =>
      obtain ⟨word, later, rfl, run₁⟩ := Runs.load_bind_iff.1 run
      obtain rfl := shows.head
      obtain ⟨first, second, words, rfl, copied, ended⟩ | ⟨-, broken⟩ := Runs.bind_iff.1 run₁
      · obtain ⟨rfl, same⟩ := ih (Nat.le_of_succ_le_succ room) shows.tail.left copied
        cases same
        obtain ⟨rfl, rfl⟩ := Runs.done_iff.1 ended
        rw [List.append_nil, fetches_succ, wordsAt_succ]
        exact ⟨rfl, rfl⟩
      · cases (ih (Nat.le_of_succ_le_succ room) shows.tail broken).2

/-- How reading a table goes. -/
inductive Course (content : Nat → Word) (address : Nat) (magic : Word) (table : List Word) :
    Trace → Except HandoffError Nat → List Word → Prop
  | foreign (other : content address ≠ magic) :
      Course content address magic table (fetches content address 1)
        (.error (.invalidMagic (content address))) table
  | malformed (known : content address = magic)
      (broken : ¬ WellFormed (declared content address)) :
      Course content address magic table (fetches content address 2)
        (.error (.invalidLength (content (address + 4)))) table
  | copied {count : Nat} (known : content address = magic)
      (sound : WellFormed (declared content address))
      (all : count = min (dataWords (declared content address)) table.length) :
      Course content address magic table
        (fetches content address 2 ++ fetches content (address + headerBytes) count)
        (.ok count) (wordsAt content (address + headerBytes) count ++ table.drop count)

/-- Every way to read a table is one of these. -/
theorem read_course {outcome : Option (Except HandoffError Nat × List Word)}
    (shows : trace.Shows content) (run : Runs (read address magic table) trace outcome) :
    ∃ result after, outcome = some (result, after) ∧
      Course content address magic table trace result after := by
  obtain ⟨found, later, rfl, run₁⟩ := Runs.load_bind_iff.1 run
  obtain rfl := shows.head
  split at run₁
  · next other =>
    obtain ⟨rfl, rfl⟩ := Runs.done_iff.1 run₁
    exact ⟨_, _, rfl, .foreign other⟩
  · next known =>
    obtain ⟨length, rest, rfl, run₂⟩ := Runs.load_bind_iff.1 run₁
    obtain rfl := shows.tail.head
    split at run₂
    · next broken =>
      obtain ⟨rfl, rfl⟩ := Runs.done_iff.1 run₂
      refine ⟨_, _, rfl, .malformed (not_not.1 known) fun sound => ?_⟩
      exact broken.elim (Nat.not_lt.2 sound.1) fun odd => odd sound.2
    · next sound =>
      obtain ⟨short, odd⟩ := not_or.1 sound
      obtain ⟨first, second, words, rfl, copied, ended⟩ | ⟨-, broken⟩ := Runs.bind_iff.1 run₂
      · obtain ⟨rfl, same⟩ :=
          runs_copyWords (Nat.min_le_right _ _) shows.tail.tail.left copied
        cases same
        obtain ⟨rfl, rfl⟩ := Runs.done_iff.1 ended
        rw [List.append_nil]
        exact ⟨_, _, rfl, .copied (not_not.1 known) ⟨Nat.not_lt.1 short, not_not.1 odd⟩ rfl⟩
      · cases (runs_copyWords (Nat.min_le_right _ _) shows.tail.tail broken).2

/-- What reading a table comes to, read off the content of memory. -/
structure Reading (content : Nat → Word) (address : Nat) (magic : Word) (table : List Word)
    (trace : Trace) (result : Except HandoffError Nat) (after : List Word) : Prop where
  foreign_iff : ∀ found, result = .error (.invalidMagic found) ↔
    content address ≠ magic ∧ found = content address
  malformed_iff : ∀ found, result = .error (.invalidLength found) ↔
    content address = magic ∧ ¬ WellFormed (declared content address) ∧
      found = content (address + 4)
  copied_iff : ∀ count, result = .ok count ↔
    content address = magic ∧ WellFormed (declared content address) ∧
      count = min (dataWords (declared content address)) table.length
  length_eq : after.length = table.length
  /-- The copied entries are consecutive words of memory. -/
  words : ∀ count, result = .ok count → ∀ index < count,
    after[index]? = some (content (address + headerBytes + 4 * index))
  /-- The entries behind them are as before. -/
  others : ∀ count, result = .ok count → ∀ index, count ≤ index → after[index]? = table[index]?
  untouched : ∀ cause, result = .error cause → after = table
  /-- Nothing is looked at but the first two words and, if the header is accepted, the blob. -/
  inside : ∀ event ∈ trace, ∃ place, event.op = .load place ∧ address ≤ place ∧
    (place + 4 ≤ address + 8 ∨
      (∃ count, result = .ok count) ∧ place + 4 ≤ address + declared content address)

theorem copied_inside {length index : Nat} (sound : WellFormed length)
    (copied : index < min (dataWords length) table.length) :
    headerBytes + 4 * index + 4 ≤ length := by
  simp only [WellFormed, dataWords, headerBytes] at *
  omega

theorem header_inside {event : Event} (few : count ≤ 2)
    (member : event ∈ fetches content address count) :
    ∃ place, event.op = .load place ∧ address ≤ place ∧ place + 4 ≤ address + 8 := by
  obtain ⟨index, small, same⟩ := op_of_mem_fetches member
  exact ⟨_, same, by omega, by omega⟩

theorem Course.inside {result : Except HandoffError Nat} {after : List Word}
    (course : Course content address magic table trace result after) :
    ∀ event ∈ trace, ∃ place, event.op = .load place ∧ address ≤ place ∧
      (place + 4 ≤ address + 8 ∨
        (∃ count, result = .ok count) ∧ place + 4 ≤ address + declared content address) := by
  intro event member
  cases course with
  | foreign _ =>
    obtain ⟨place, same, from_, within⟩ := header_inside (by decide) member
    exact ⟨place, same, from_, .inl within⟩
  | malformed _ _ =>
    obtain ⟨place, same, from_, within⟩ := header_inside (by decide) member
    exact ⟨place, same, from_, .inl within⟩
  | @copied count _ sound all =>
    obtain header | data := List.mem_append.1 member
    · obtain ⟨place, same, from_, within⟩ := header_inside (by decide) header
      exact ⟨place, same, from_, .inl within⟩
    · obtain ⟨index, small, same⟩ := op_of_mem_fetches data
      have within := copied_inside sound (all ▸ small)
      exact ⟨_, same, by omega, .inr ⟨⟨count, rfl⟩, by omega⟩⟩

/-- Reading a table comes to the result that the content of memory calls for, replaces the entries
that it counts and no others, and stays inside the blob. -/
theorem table_read {outcome : Option (Except HandoffError Nat × List Word)}
    (shows : trace.Shows content) (run : Runs (read address magic table) trace outcome) :
    ∃ result after, outcome = some (result, after) ∧
      Reading content address magic table trace result after := by
  obtain ⟨result, after, rfl, course⟩ := read_course shows run
  have inside := course.inside
  refine ⟨result, after, rfl, ?_⟩
  cases course with
  | foreign other =>
    refine ⟨fun found => ?_, fun found => ?_, fun count => ?_, rfl, nofun, nofun, fun _ _ => rfl,
      inside⟩
    · simp [other, eq_comm]
    · simp [other]
    · simp [other]
  | malformed known broken =>
    refine ⟨fun found => ?_, fun found => ?_, fun count => ?_, rfl, nofun, nofun, fun _ _ => rfl,
      inside⟩
    · simp [known]
    · simp [known, broken, eq_comm]
    · simp [broken]
  | copied known sound all =>
    refine ⟨fun found => ?_, fun found => ?_, fun count => ?_, ?_, ?_, ?_, nofun, inside⟩
    · simp [known]
    · simp [sound]
    · simp [known, sound, all, eq_comm]
    · rw [List.length_append, length_wordsAt, List.length_drop]
      omega
    · rintro _ same index small
      cases same
      rw [List.getElem?_append_left (by simpa using small), getElem?_wordsAt small]
    · rintro _ same index behind
      cases same
      rw [List.getElem?_append_right (by simpa using behind), length_wordsAt, List.getElem?_drop]
      congr 1
      omega

/-- A blob with two data words is read into a table of three, whose last entry stays. -/
theorem table_read_two :
    let content : Nat → Word := fun address =>
      if address = 0x1000 then sdramMagic else if address = 0x1004 then 24
      else BitVec.ofNat 32 address
    let reading := read 0x1000 sdramMagic [7, 8, 9]
    let trace := reading.trace (fixedMemory content) ()
    trace.Shows content ∧ Runs reading trace (some (.ok 2, [0x1010, 0x1014, 9])) ∧
      Reading content 0x1000 sdramMagic [7, 8, 9] trace (.ok 2) [0x1010, 0x1014, 9] := by
  intro content reading trace
  have ended : (reading.run (fixedMemory content) ()).1 = some (.ok 2, [0x1010, 0x1014, 9]) := by
    with_unfolding_all rfl
  have run := Runs.of_run_eq (fixedMemory content) () ended
  have shows : trace.Shows content := shows_fixedMemory reading ()
  obtain ⟨_, _, same, read⟩ := table_read shows run
  cases same
  exact ⟨shows, run, read⟩

end Handoff
end BringUp
