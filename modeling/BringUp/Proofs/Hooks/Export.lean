import BringUp.Hooks
import BringUp.Proofs.Board.Environment
import BringUp.Proofs.Text.Digits

/-! The export to the boot environment. Main statement: an export makes its assignments in order, up
to the first one that the environment refuses, and repeating it changes nothing. -/
namespace BringUp.Hooks

open Program (setAll setAll_cons setAll_nil)

variable {clock : Word} {board : BitVec 8} {platform : Platform} {missing : Bool}

/-- The assignments of an export after the first one. -/
def laterExports (board : BitVec 8) (missing : Bool) : List Assignment :=
  (if missing then [(logLevelVariable, toString defaultLogLevel)] else []) ++
    [(boardVariable, toString board.toNat)]

/-- The assignments of an export, in order. The log level is among them if it is missing. -/
def exports (clock : Word) (board : BitVec 8) (missing : Bool) : List Assignment :=
  (clockVariable, clockText clock) :: laterExports board missing

section Assignments

theorem mem_exports_iff {made : Assignment} : made ∈ exports clock board missing ↔
    made = (clockVariable, clockText clock) ∨
    missing = true ∧ made = (logLevelVariable, toString defaultLogLevel) ∨
    made = (boardVariable, toString board.toNat) := by
  cases missing <;> simp [exports, laterExports]

theorem distinct_exports : ((exports clock board missing).map (·.1)).Nodup := by
  cases missing with
  | false => exact (by decide : [clockVariable, boardVariable].Nodup)
  | true => exact (by decide : [clockVariable, logLevelVariable, boardVariable].Nodup)

theorem ne_logLevel {made : Assignment} (member : made ∈ exports clock board false) :
    made.1 ≠ logLevelVariable := by
  obtain rfl | ⟨same, -⟩ | rfl := mem_exports_iff.1 member
  · exact (by decide : clockVariable ≠ logLevelVariable)
  · cases same
  · exact (by decide : boardVariable ≠ logLevelVariable)

/-- What is assigned while the log level is set is assigned while it is missing, too. -/
theorem mem_exports_of_false {made : Assignment} (member : made ∈ exports clock board false) :
    made ∈ exports clock board missing := by
  obtain rfl | ⟨same, -⟩ | rfl := mem_exports_iff.1 member
  · exact mem_exports_iff.2 (.inl rfl)
  · cases same
  · exact mem_exports_iff.2 (.inr (.inr rfl))

end Assignments

section Values

theorem clockText_eq : clockText clock =
    String.ofList ('<' :: '0' :: 'x' :: (Text.lowDigits 8 clock.toNat ++ ['>'])) := by
  rw [clockText, Text.hexWord, ← String.toList_inj]
  simp only [String.toList_append, String.toList_ofList]
  rfl

theorem clockText_fits : (clockText clock).utf8ByteSize ≤ valueCapacity := by
  have around : "<".utf8ByteSize = 1 ∧ "0x".utf8ByteSize = 2 ∧ ">".utf8ByteSize = 1 := by decide
  rw [clockText, Text.hexWord]
  simp only [String.utf8ByteSize_append, around]
  rw [Text.utf8ByteSize_ofList fun _ member =>
    Text.utf8Size_of_hexDigit (Text.mem_hexDigits member), Text.length_lowDigits]
  decide

theorem levelText_fits : (toString defaultLogLevel).utf8ByteSize ≤ valueCapacity :=
  Text.utf8ByteSize_toString_le (by decide) (by decide)

theorem boardText_fits : (toString board.toNat).utf8ByteSize ≤ valueCapacity :=
  Text.utf8ByteSize_toString_le (by decide) (Nat.lt_trans board.isLt (by decide))

theorem exports_fit {made : Assignment} (member : made ∈ exports clock board missing) :
    made.2.utf8ByteSize ≤ valueCapacity := by
  obtain rfl | ⟨-, rfl⟩ | rfl := mem_exports_iff.1 member
  · exact clockText_fits
  · exact levelText_fits
  · exact boardText_fits

end Values

section Course

theorem exportValue_eq {name value : String} (fits : value.utf8ByteSize ≤ valueCapacity) :
    exportValue name value = ExceptT.mk (Program.setVariable name value) := by
  rw [exportValue, Text.Buffer.write?_empty fits]

theorem setAll_laterExports : setAll (laterExports board missing) = (do
    if missing then
      ExceptT.mk (Program.setVariable logLevelVariable (toString defaultLogLevel))
    ExceptT.mk (Program.setVariable boardVariable (toString board.toNat))) := by
  cases missing with
  | false => exact bind_pure_unit
  | true => exact congrArg (ExceptT.mk _ >>= ·) (funext fun _ => bind_pure_unit)

/-- All values fit, so an export only assigns, and asks for the log level in between. -/
theorem exportVariables_eq (real : platform.emulator = false) :
    exportVariables platform clock board = (do
      setAll [(clockVariable, clockText clock)]
      let level ← Program.getVariable logLevelVariable
      setAll (laterExports board level.isNone)) := by
  simp only [exportVariables, real, exportValue_eq clockText_fits, exportValue_eq levelText_fits,
    exportValue_eq boardText_fits, setAll_laterExports, setAll_cons, setAll_nil, bind_pure_unit,
    Bool.not_false, if_true]

theorem uses_exportVariables (real : platform.emulator = false) :
    (exportVariables platform clock board).run.Uses Consulting := by
  rw [exportVariables_eq real]
  refine Program.uses_run_bind Program.uses_setAll fun _ _ => ?_
  exact Program.uses_run_bind (Program.uses_run_program ⟨trivial, fun _ => trivial⟩)
    fun _ _ => Program.uses_setAll

/-- An export fails with its first assignment, or goes on with the log level that it is told. -/
theorem runs_exportVariables (real : platform.emulator = false) {trace : Trace}
    {outcome : Option (Except EnvironmentError Unit)}
    (run : Runs (exportVariables platform clock board).run trace outcome) :
    (∃ cause, outcome = some (.error cause) ∧
      Attempted [(clockVariable, clockText clock)] (.error cause) trace.assignments) ∨
    ∃ (first : Trace) (level : Option String) (rest : Trace) (result : Except EnvironmentError Unit),
      trace = first ++ ⟨.getVariable logLevelVariable, level⟩ :: rest ∧ outcome = some result ∧
      Attempted [(clockVariable, clockText clock)] (.ok ()) first.assignments ∧
      Attempted (laterExports board level.isNone) result rest.assignments := by
  rw [exportVariables_eq real] at run
  obtain ⟨first, second, _, rfl, clock, later⟩ | ⟨cause, rfl, clock⟩ | ⟨rfl, clock⟩ :=
    Runs.run_bind_iff.1 run
  · obtain ⟨_, same, stored⟩ := runs_setAll clock
    cases same
    obtain ⟨_, rest, level, rfl, asked, further⟩ :=
      Runs.run_program_returned later fun _ => trivial
    obtain ⟨_, rfl, same⟩ := Runs.question_iff.1 asked
    cases same
    obtain ⟨result, rfl, afterwards⟩ := runs_setAll further
    exact .inr ⟨first, level, rest, result, rfl, rfl, stored, afterwards⟩
  · obtain ⟨_, same, refused⟩ := runs_setAll clock
    cases same
    exact .inl ⟨cause, rfl, refused⟩
  · obtain ⟨_, same, -⟩ := runs_setAll clock
    cases same

end Course

/-- The environment after an export that has succeeded. -/
structure Exported (clock : Word) (board : BitVec 8) (before after : String → Option String) :
    Prop where
  clock : ∃ digits : List Char,
    after clockVariable = some (String.ofList ('<' :: '0' :: 'x' :: (digits ++ ['>']))) ∧
    digits.length = 8 ∧ (∀ digit ∈ digits, digit ∈ Text.hexDigits) ∧
    Text.hexValue? digits = some clock.toNat
  board : after boardVariable = some (toString board.toNat)
  logLevel : after logLevelVariable = some ((before logLevelVariable).getD "7")
  others : ∀ name, name ≠ clockVariable → name ≠ logLevelVariable → name ≠ boardVariable →
    after name = before name

theorem exported_assign (before : String → Option String) : Exported clock board before
    (assign before (exports clock board (before logLevelVariable).isNone)) where
  clock := by
    refine ⟨Text.lowDigits 8 clock.toNat, ?_, Text.length_lowDigits,
      fun _ => Text.mem_hexDigits, Text.hexValue?_word clock⟩
    rw [← clockText_eq]
    exact assign_of_mem (mem_exports_iff.2 (.inl rfl)) distinct_exports
  board := assign_of_mem (mem_exports_iff.2 (.inr (.inr rfl))) distinct_exports
  logLevel := by
    cases known : before logLevelVariable with
    | none =>
      have member : (logLevelVariable, toString defaultLogLevel) ∈ exports clock board true :=
        mem_exports_iff.2 (.inr (.inl ⟨rfl, rfl⟩))
      exact assign_of_mem member distinct_exports
    | some level => exact (assign_of_ne fun _ => ne_logLevel).trans known
  others := by
    intro name notClock notLevel notBoard
    refine assign_of_ne fun made member => ?_
    obtain rfl | ⟨-, rfl⟩ | rfl := mem_exports_iff.1 member
    · exact notClock.symm
    · exact notLevel.symm
    · exact notBoard.symm

/-- What an export does to an environment: the variables before and after it, what it attempts to
assign, and how it ends. -/
structure Export (clock : Word) (board : BitVec 8) (before after : String → Option String)
    (attempts : List (Assignment × Except EnvironmentError Unit))
    (result : Except EnvironmentError Unit) : Prop where
  buffered : ∀ made ∈ exports clock board (before logLevelVariable).isNone, ∃ buffer,
    (Text.Buffer.empty : Text.Buffer valueCapacity).write? made.2 = some buffer ∧
    buffer.text = made.2
  succeeded : result = .ok () → Exported clock board before after ∧
    attempts = (exports clock board (before logLevelVariable).isNone).map fun made => (made, .ok ())
  failed : ∀ cause, result = .error cause → ∃ stored refused rest,
    exports clock board (before logLevelVariable).isNone = stored ++ refused :: rest ∧
    attempts = (stored.map fun made => (made, .ok ())) ++ [(refused, .error cause)] ∧
    after = assign before stored
  kept : ∀ level, before logLevelVariable = some level →
    after logLevelVariable = some level ∧ ∀ attempt ∈ attempts, attempt.1.1 ≠ logLevelVariable

/-- Attempts in order, the accepted of which take effect, make an export. -/
theorem export_of_attempted {before after : String → Option String} {trace : Trace}
    {result : Except EnvironmentError Unit}
    (attempted : Attempted (exports clock board (before logLevelVariable).isNone) result
      trace.assignments) (reached : after = assign before trace.accepted) :
    Export clock board before after trace.assignments result where
  buffered made member := ⟨_, Text.Buffer.write?_empty (exports_fit member), rfl⟩
  succeeded ended := by
    subst ended
    rw [reached, attempted.accepted_eq]
    exact ⟨exported_assign before, attempted.attempts_eq rfl⟩
  failed cause ended := by
    obtain ⟨stored, refused, rest, whole, attempts⟩ := attempted.exists_refused ended
    refine ⟨stored, refused, rest, whole, attempts, ?_⟩
    rw [reached, Trace.accepted_of_append attempts]
    intro attempt member
    obtain rfl := List.mem_singleton.1 member
    rfl
  kept level known := by
    rw [known] at attempted
    refine ⟨?_, fun attempt member => ne_logLevel (attempted.mem attempt member)⟩
    rw [reached, assign_of_ne fun made member => ne_logLevel (attempted.mem_accepted member), known]

section Environment

variable {σ : Type} {handle : (op : Op) → σ → op.Answer × σ} {values : σ → String → Option String}

/-- An export attempts its assignments in order. It knows whether the log level is missing. -/
theorem attempted_exports (holds : HoldsVariables handle values)
    (real : platform.emulator = false) (clock : Word) (board : BitVec 8) (state : σ) :
    ∃ result, ((exportVariables platform clock board).run.run handle state).1 = some result ∧
      Attempted (exports clock board (values state logLevelVariable).isNone) result
        ((exportVariables platform clock board).run.trace handle state).assignments := by
  obtain ⟨cause, ended, refused⟩ | ⟨first, level, rest, result, split, ended, stored, later⟩ :=
    runs_exportVariables real (Runs.of_run handle (exportVariables platform clock board).run state)
  · exact ⟨_, ended, refused.append_refused⟩
  · -- The clock is not the log level, so the answer is the one from before the export.
    have known : level = values state logLevelVariable := by
      rw [holds.told_run (uses_exportVariables real) split, stored.accepted_eq]
      refine assign_of_ne fun made member => ?_
      obtain rfl := List.mem_singleton.1 member
      exact (by decide : clockVariable ≠ logLevelVariable)
    rw [split, Trace.assignments_append, ← known]
    exact ⟨result, ended, stored.append later⟩

theorem values_exportVariables (holds : HoldsVariables handle values)
    (real : platform.emulator = false) (clock : Word) (board : BitVec 8) (state : σ) :
    values ((exportVariables platform clock board).run.run handle state).2 = assign (values state)
      ((exportVariables platform clock board).run.trace handle state).accepted :=
  holds.run (uses_exportVariables real) state

/-- An export changes nothing where all its values are there already. -/
theorem exportVariables_again (holds : HoldsVariables handle values)
    (real : platform.emulator = false) {state : σ} {level : String}
    (set : values state logLevelVariable = some level)
    (there : ∀ made ∈ exports clock board false, values state made.1 = some made.2) :
    values ((exportVariables platform clock board).run.run handle state).2 = values state := by
  obtain ⟨result, -, attempted⟩ := attempted_exports holds real clock board state
  rw [set] at attempted
  rw [values_exportVariables holds real]
  exact assign_eq_self fun made member => there made (attempted.mem_accepted member)

/-- An export does so to every environment. After one that has succeeded, a second one leaves the
variables as they are. -/
theorem environment_exported (holds : HoldsVariables handle values)
    (real : platform.emulator = false) (clock : Word) (board : BitVec 8) (state : σ) :
    ∃ result final,
      (exportVariables platform clock board).run.run handle state = (some result, final) ∧
      Export clock board (values state) (values final)
        ((exportVariables platform clock board).run.trace handle state).assignments result ∧
      (result = .ok () → ∀ later, values later = values final →
        values ((exportVariables platform clock board).run.run handle later).2 = values later) := by
  obtain ⟨result, ended, attempted⟩ := attempted_exports holds real clock board state
  have reached := values_exportVariables holds real clock board state
  have effect := export_of_attempted attempted reached
  refine ⟨result, _, Prod.ext ended rfl, effect, fun succeeded later same => ?_⟩
  obtain ⟨exported, -⟩ := effect.succeeded succeeded
  subst succeeded
  -- The log level is set now, and what is assigned again has just been stored.
  refine exportVariables_again holds real (same ▸ exported.logLevel) fun made member => ?_
  rw [same, reached, attempted.accepted_eq]
  exact assign_of_mem (mem_exports_of_false member) distinct_exports

end Environment

/-- A board whose environment knows a log level and has room for one more variable. -/
def crowdedBoard : Board :=
  { environment := { entries := [(logLevelVariable, "2")], capacity := 2 } }

/-- On the crowded board the number of the board is refused, after the clock has been stored. -/
theorem environment_exported_crowded : ∃ final,
    (exportVariables {} 200000000 3).run.run Board.serve crowdedBoard =
      (some (.error .full), final) ∧
    (∃ stored refused rest,
      exports 200000000 3 false = stored ++ refused :: rest ∧
      ((exportVariables {} 200000000 3).run.trace Board.serve crowdedBoard).assignments =
        (stored.map fun made => (made, .ok ())) ++ [(refused, .error .full)] ∧
      final.environment.get? = assign crowdedBoard.environment.get? stored) ∧
    final.environment.get? clockVariable = some "<0x0bebc200>" ∧
    final.environment.get? boardVariable = none ∧
    final.environment.get? logLevelVariable = some "2" := by
  obtain ⟨result, final, ran, effect, -⟩ :=
    environment_exported Board.holdsVariables (rfl : ({} : Platform).emulator = false)
      200000000 3 crowdedBoard
  have ended : some result = some (.error .full) := (congrArg Prod.fst ran).symm.trans rfl
  obtain rfl := Option.some.inj ended
  obtain rfl : _ = final := congrArg Prod.snd ran
  exact ⟨_, ran, effect.failed _ rfl, rfl, rfl, (effect.kept "2" rfl).1⟩

/-- On a board without variables an export stores all of them. -/
example : [clockVariable, logLevelVariable, boardVariable].map
    ((exportVariables {} 200000000 3).run.run Board.serve {}).2.environment.get? =
      [some "<0x0bebc200>", some "7", some "3"] := by
  rfl

end BringUp.Hooks
