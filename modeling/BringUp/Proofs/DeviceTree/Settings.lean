import Mathlib.Data.List.Forall2
import BringUp.DeviceTree.Settings
import BringUp.Proofs.DeviceTree.Footprint
import BringUp.Proofs.Program.Runs

/-! Settings that are carried out as a whole or not at all. Main statement: both readings of a node
agree, so a run visits all of its settings in order, or stops for a reason that does not depend on
the visitor. -/
namespace BringUp.DeviceTree

open Program (Logging bind_assoc)

/-- The big endian word at an index. -/
def Bytes.wordAt (bytes : Bytes) (index : Nat) : Word :=
  BitVec.ofNat 32 (((bytes.drop index).take 4).foldl (fun word byte => 256 * word + byte.toNat) 0)

/-- The triple at a position. -/
def Setting.triple (base : Nat) (value : Bytes) (position : Nat) : Setting :=
  ⟨base, value.wordAt (12 * position), value.wordAt (12 * position + 4),
    value.wordAt (12 * position + 8)⟩

namespace Blob

/-- A child describes these settings: none without the property, and otherwise one for each triple
of the property. -/
inductive Describes (blob : Blob) (child : Node) : List Setting → Prop
  | nothing (absent : blob.property? child settingsProperty = .ok none) : Describes blob child []
  | block {value : Bytes} {regions : Option (List Region)} {region : Region}
      (present : blob.property? child settingsProperty = .ok (some value))
      (read : blob.regions? child = .ok regions) (first : regions.bind List.head? = some region)
      (whole : value.length % 12 = 0)
      (inside : ∀ position < value.length / 12,
        (value.wordAt (12 * position)).toNat < region.size.getD 0) :
      Describes blob child
        ((List.range (value.length / 12)).map (Setting.triple region.start value))

/-- The settings of a child are refused: it has no region, or an incomplete triple, or an offset
that is not inside its first region. -/
inductive Malformed (blob : Blob) (child : Node) : Prop
  | unplaced {value : Bytes} {regions : Option (List Region)}
      (present : blob.property? child settingsProperty = .ok (some value))
      (read : blob.regions? child = .ok regions) (first : regions.bind List.head? = none)
  | incomplete {value : Bytes} {regions : Option (List Region)}
      (present : blob.property? child settingsProperty = .ok (some value))
      (read : blob.regions? child = .ok regions) (odd : value.length % 12 ≠ 0)
  | outside {value : Bytes} {regions : Option (List Region)} {region : Region} {position : Nat}
      (present : blob.property? child settingsProperty = .ok (some value))
      (read : blob.regions? child = .ok regions) (first : regions.bind List.head? = some region)
      (within : position < value.length / 12)
      (beyond : region.size.getD 0 ≤ (value.wordAt (12 * position)).toNat)

/-- Checks the settings of a child. -/
def checkBlock (blob : Blob) (nodeName : String) (child : Node) : Program (Except Error Unit) := do
  match ← readable (blob.property? child settingsProperty) with
  | none => return .ok ()
  | some value =>
    match ((← readable (blob.regions? child)).bind List.head?) with
    | none => return .error (.invalidSettings nodeName)
    | some region =>
      if value.length % Setting.bytes ≠ 0 then
        return .error (.invalidSettings nodeName)
      match (Setting.triples region.start value).find? fun setting =>
          region.size.getD 0 ≤ setting.offset.toNat with
      | some setting =>
        Program.log .error ("secreg: offset " ++ Text.hex setting.offset.toNat
          ++ " outside of block " ++ child.name)
        return .error (.invalidSettings nodeName)
      | none => return .ok ()

/-- Checks the settings of several children, up to the first that is refused. -/
def checkBlocks (blob : Blob) (nodeName : String) : List Node → Program (Except Error Unit)
  | [] => return .ok ()
  | child :: rest => do
    match ← blob.checkBlock nodeName child with
    | .error cause => return .error cause
    | .ok () => blob.checkBlocks nodeName rest

/-- Visits the settings of a child and counts them. A child without a region is passed over. -/
def visitBlock (blob : Blob) (visit : Setting → Program Unit) (count : Nat) (child : Node) :
    Program Nat := do
  match ← readable (blob.property? child settingsProperty) with
  | none => return count
  | some value =>
    match ((← readable (blob.regions? child)).bind List.head?) with
    | none => return count
    | some region =>
      (Setting.triples region.start value).foldlM (fun count setting => do
        visit setting
        return count + 1) count

end Blob

/-- Visits the settings of the first node with that name, in two passes: the first one checks all
of them. The answer is their number. -/
def Settings.forEach (data : Bytes) (nodeName : String) (visit : Setting → Program Unit) :
    Program (Except Error Nat) := do
  match Blob.parse data with
  | .error cause => return .error (.blob cause)
  | .ok blob =>
    match ← readable (blob.nodes.find? fun node => Node.baseName node.name == nodeName) with
    | none => return .error (.nodeNotFound nodeName)
    | some node =>
      let children := blob.children node
      match ← blob.checkBlocks nodeName children.items with
      | .error cause => return .error cause
      | .ok () =>
        let _ ← readable children.toList
        let count ← children.items.foldlM (blob.visitBlock visit) 0
        let _ ← readable children.toList
        return .ok count

/-- Visits settings that are collected already. Their number is the answer. -/
def Settings.visitAll (visit : Setting → Program Unit) :
    Except Error (List Setting) → Program (Except Error Nat)
  | .error cause => .done (.error cause)
  | .ok settings => (settings.forM visit).bind fun _ => .done (.ok settings.length)

variable {data value : Bytes} {blob : Blob} {child : Node} {name : String} {base : Nat}
  {visit : Setting → Program Unit}

section Triples

theorem wordAt_append (front value : Bytes) (index : Nat) :
    Bytes.wordAt (front ++ value) (front.length + index) = value.wordAt index := by
  rw [Bytes.wordAt, Bytes.wordAt, List.drop_length_add_append]

theorem triple_append {front : Bytes} (whole : front.length = 12) (position : Nat) :
    Setting.triple base (front ++ value) (position + 1) = Setting.triple base value position := by
  have word (index : Nat) : Bytes.wordAt (front ++ value) (12 * (position + 1) + index) =
      value.wordAt (12 * position + index) := by
    rw [← wordAt_append front value, whole]
    congr 1
    omega
  have first : Bytes.wordAt (front ++ value) (12 * (position + 1)) = value.wordAt (12 * position) :=
    word 0
  simp only [Setting.triple, word, first]

/-- Both ways to read a word take its bytes in the same order. -/
theorem word_eq (a b c d : UInt8) (rest : Bytes) :
    Setting.triples.word [a, b, c, d] = Bytes.wordAt (a :: b :: c :: d :: rest) 0 := by
  simp only [Setting.triples.word, Bytes.word?, Bytes.wordAt, List.drop_zero, Option.getD_some,
    List.take_succ_cons, List.take_zero, List.foldl_cons, List.foldl_nil]
  congr 1
  omega

/-- The triples of a value are those at all positions. -/
theorem triples_eq (base : Nat) (value : Bytes) : Setting.triples base value =
    (List.range (value.length / 12)).map (Setting.triple base value) := by
  fun_induction Setting.triples base value with
  | case1 a b c d e f g h i j k l rest ih =>
    let front : Bytes := [a, b, c, d, e, f, g, h, i, j, k, l]
    have count : (front ++ rest).length / 12 = rest.length / 12 + 1 := by
      rw [List.length_append, show front.length = 12 from rfl]
      omega
    have first : Setting.triple base (front ++ rest) 0 = ⟨base, Setting.triples.word [a, b, c, d],
        Setting.triples.word [e, f, g, h], Setting.triples.word [i, j, k, l]⟩ := by
      rw [word_eq a b c d (e :: f :: g :: h :: i :: j :: k :: l :: rest),
        word_eq e f g h (i :: j :: k :: l :: rest), word_eq i j k l rest]
      rfl
    have others (position : Nat) : Setting.triple base (front ++ rest) (position + 1) =
        Setting.triple base rest position := triple_append rfl position
    change _ = (List.range ((front ++ rest).length / 12)).map (Setting.triple base (front ++ rest))
    rw [count, List.range_succ_eq_map, List.map_cons, List.map_map, ih, first]
    simp only [Function.comp_def, Nat.succ_eq_add_one, others]
  | case2 value short =>
    have less : value.length < 12 := by
      rcases value with _ | ⟨a, _ | ⟨b, _ | ⟨c, _ | ⟨d, _ | ⟨e, _ | ⟨f, value⟩⟩⟩⟩⟩⟩
      all_goals try simp
      rcases value with _ | ⟨g, _ | ⟨h, _ | ⟨i, _ | ⟨j, _ | ⟨k, _ | ⟨l, value⟩⟩⟩⟩⟩⟩
      all_goals try simp
      exact (short _ _ _ _ _ _ _ _ _ _ _ _ value rfl).elim
    rw [Nat.div_eq_of_lt less]
    rfl

end Triples

section Passes

/-- The program refuses for one of the reasons, unless it meets something unreadable. -/
structure Stops (reason : Error → Prop) (stop : Program Error) : Prop where
  uses : stop.Uses Logging
  reason : ∀ cause, stop.Yields cause → reason cause

theorem stops_fault {reason : Error → Prop} : Stops reason .fault where
  uses := trivial
  reason := fun _ yields => by
    obtain ⟨_, run⟩ := yields
    cases run

theorem stops_done {reason : Error → Prop} {cause : Error} (h : reason cause) :
    Stops reason (.done cause) where
  uses := trivial
  reason := fun other yields => by
    rw [Program.yields_done.1 yields]
    exact h

theorem Stops.log {reason : Error → Prop} {stop : Program Error} (stops : Stops reason stop)
    (level : Level) (text : String) : Stops reason ((Program.log level text).bind fun _ => stop) where
  uses := ⟨trivial, fun _ => stops.uses⟩
  reason := fun cause yields => by
    obtain ⟨_, later⟩ := Program.yields_ask.1 yields
    exact stops.reason cause later

theorem Stops.mono {reason other : Error → Prop} {stop : Program Error} (stops : Stops reason stop)
    (h : ∀ cause, reason cause → other cause) : Stops other stop :=
  ⟨stops.uses, fun cause yields => h cause (stops.reason cause yields)⟩

/-- The failure that a stop ends with. -/
def fail {α : Type} (stop : Program Error) : Program (Except Error α) :=
  stop.bind fun cause => .done (.error cause)

/-- Why the settings of a child are refused. -/
def Refuses (blob : Blob) (name : String) (children : List Node) (cause : Error) : Prop :=
  cause = .invalidSettings name ∧ ∃ child ∈ children, blob.Malformed child

/-- A child describes its settings, or the check of the child and the collection of its settings
stop alike. -/
theorem block_cases (blob : Blob) (name : String) (child : Node) :
    (∃ part, blob.Describes child part ∧ blob.checkBlock name child = .done (.ok ()) ∧
      blob.blockSettings name child = .done (.ok part)) ∨
    ∃ stop, Stops (Refuses blob name [child]) stop ∧ blob.checkBlock name child = fail stop ∧
      blob.blockSettings name child = fail stop := by
  have refuses (malformed : blob.Malformed child) :
      Refuses blob name [child] (.invalidSettings name) :=
    ⟨rfl, child, List.mem_singleton_self child, malformed⟩
  unfold Blob.checkBlock Blob.blockSettings
  cases present : blob.property? child settingsProperty with
  | error _ => exact .inr ⟨.fault, stops_fault, rfl, rfl⟩
  | ok found =>
    cases found with
    | none => exact .inl ⟨[], .nothing present, rfl, rfl⟩
    | some value =>
      cases read : blob.regions? child with
      | error _ => exact .inr ⟨.fault, stops_fault, rfl, rfl⟩
      | ok regions =>
        simp only [readable, Program.bind_eq, Program.done_bind]
        cases first : regions.bind List.head? with
        | none =>
          exact .inr ⟨_, stops_done (refuses (.unplaced present read first)), rfl, rfl⟩
        | some region =>
          dsimp only
          by_cases odd : value.length % Setting.bytes ≠ 0
          · rw [if_pos odd, if_pos odd]
            exact .inr ⟨_, stops_done (refuses (.incomplete present read odd)), rfl, rfl⟩
          · rw [if_neg odd, if_neg odd, triples_eq]
            cases search : ((List.range (value.length / 12)).map
                (Setting.triple region.start value)).find? fun setting =>
                  decide (region.size.getD 0 ≤ setting.offset.toNat) with
            | none =>
              rw [List.find?_eq_none] at search
              refine .inl ⟨_, .block present read first (Decidable.not_not.1 odd) ?_, rfl, rfl⟩
              intro position within
              have inside := search _ (List.mem_map_of_mem (List.mem_range.2 within))
              exact Nat.not_le.1 (of_decide_eq_false (Bool.eq_false_iff.2 inside))
            | some setting =>
              obtain ⟨position, within, rfl⟩ := List.mem_map.1 (List.mem_of_find?_eq_some search)
              have beyond := List.find?_some search
              simp only [decide_eq_true_eq] at beyond
              exact .inr ⟨_, (stops_done (refuses (.outside present read first
                (List.mem_range.1 within) beyond))).log _ _, rfl, rfl⟩

/-- All children describe their settings, or both passes over them stop alike. -/
theorem blocks_cases (blob : Blob) (name : String) (children : List Node) :
    (∃ parts, List.Forall₂ blob.Describes children parts ∧
      blob.checkBlocks name children = .done (.ok ()) ∧
      blob.allSettings name children = .done (.ok parts.flatten)) ∨
    ∃ stop, Stops (Refuses blob name children) stop ∧ blob.checkBlocks name children = fail stop ∧
      blob.allSettings name children = fail stop := by
  induction children with
  | nil => exact .inl ⟨[], .nil, rfl, rfl⟩
  | cons child rest ih =>
    simp only [Blob.checkBlocks, Blob.allSettings, Program.bind_eq]
    obtain ⟨part, describes, checked, collected⟩ | ⟨stop, stops, checked, collected⟩ :=
      block_cases blob name child
    · obtain ⟨parts, each, others, settings⟩ | ⟨stop, stops, others, settings⟩ := ih
      · refine .inl ⟨part :: parts, .cons describes each, ?_, ?_⟩
        · rw [checked]
          exact others
        · rw [collected]
          simp only [Program.done_bind, settings]
          rfl
      · have further : Stops (Refuses blob name (child :: rest)) stop :=
          stops.mono fun cause refused =>
            ⟨refused.1, refused.2.imp fun other h => ⟨List.mem_cons_of_mem _ h.1, h.2⟩⟩
        refine .inr ⟨stop, further, ?_, ?_⟩
        · rw [checked]
          exact others
        · rw [collected]
          simp only [Program.done_bind, settings, fail, bind_assoc]
          rfl
    · have here : Stops (Refuses blob name (child :: rest)) stop :=
        stops.mono fun cause refused => ⟨refused.1, refused.2.imp fun other h =>
          ⟨List.mem_cons.2 (.inl (List.mem_singleton.1 h.1)), h.2⟩⟩
      refine .inr ⟨stop, here, ?_, ?_⟩
      · simp only [checked, fail, bind_assoc]
        rfl
      · simp only [collected, fail, bind_assoc]
        rfl

/-- Counting the visits of settings does not interfere with them. -/
theorem foldlM_visit (settings : List Setting) (count : Nat) :
    settings.foldlM (fun count setting => (visit setting).bind fun _ => .done (count + 1)) count =
      (settings.forM visit).bind fun _ => .done (count + settings.length) := by
  induction settings generalizing count with
  | nil => rfl
  | cons setting rest ih =>
    have sum : count + 1 + rest.length = count + (setting :: rest).length := by
      rw [List.length_cons]
      omega
    rw [List.foldlM_cons, List.forM_eq_forM, List.forM_cons, Program.bind_eq, Program.bind_eq,
      bind_assoc, bind_assoc]
    simp only [Program.done_bind, ih, sum]
    rfl

theorem visitBlock_eq {part : List Setting} (describes : blob.Describes child part) (count : Nat) :
    blob.visitBlock visit count child =
      (part.forM visit).bind fun _ => .done (count + part.length) := by
  cases describes with
  | nothing absent =>
    rw [Blob.visitBlock, absent]
    rfl
  | block present read first whole inside =>
    rw [Blob.visitBlock, present]
    simp only [readable, Program.bind_eq, Program.done_bind, read, first, triples_eq]
    exact foldlM_visit _ count

theorem visitBlocks_eq {children : List Node} {parts : List (List Setting)}
    (each : List.Forall₂ blob.Describes children parts) (count : Nat) :
    children.foldlM (blob.visitBlock visit) count =
      (parts.flatten.forM visit).bind fun _ => .done (count + parts.flatten.length) := by
  induction each generalizing count with
  | nil => rfl
  | @cons child part children parts describes _ ih =>
    have sum : count + part.length + parts.flatten.length =
        count + (part :: parts).flatten.length := by
      rw [List.flatten_cons, List.length_append, Nat.add_assoc]
    rw [List.foldlM_cons, visitBlock_eq describes, List.flatten_cons, List.forM_eq_forM,
      List.forM_append, Program.bind_eq, Program.bind_eq, bind_assoc, bind_assoc]
    simp only [Program.done_bind, ih, sum]
    rfl

end Passes

/-- The settings of the first node with the name: those that its children describe, in order. -/
def Settings.Listed (data : Bytes) (name : String) (settings : List Setting) : Prop :=
  ∃ blob node parts, Blob.parse data = .ok blob ∧
    blob.nodes.items.find? (fun node => Node.baseName node.name == name) = some node ∧
    List.Forall₂ blob.Describes (blob.children node).items parts ∧ settings = parts.flatten

/-- The settings of some child of the first node with the name are refused. -/
def Settings.Refused (data : Bytes) (name : String) : Prop :=
  ∃ blob node, Blob.parse data = .ok blob ∧
    blob.nodes.items.find? (fun node => Node.baseName node.name == name) = some node ∧
    ∃ child ∈ (blob.children node).items, blob.Malformed child

/-- There is no node with the name. -/
def Settings.Missing (data : Bytes) (name : String) : Prop :=
  ∃ blob, Blob.parse data = .ok blob ∧ ∀ node ∈ blob.nodes.items, Node.baseName node.name ≠ name

namespace Settings

/-- Why no setting of a node is used. -/
inductive Reason (data : Bytes) (name : String) : Error → Prop
  | unreadable {cause : BlobError} (h : Blob.parse data = .error cause) :
      Reason data name (.blob cause)
  | missing (h : Missing data name) : Reason data name (.nodeNotFound name)
  | refused (h : Refused data name) : Reason data name (.invalidSettings name)

/-- All settings of a node are visited, or both passes and their collection stop alike. -/
theorem forEach_cases (data : Bytes) (name : String) :
    (∃ settings, Listed data name settings ∧ ofBlob data name = .done (.ok settings) ∧
      ∀ visit, forEach data name visit =
        (settings.forM visit).bind fun _ => .done (.ok settings.length)) ∨
    ∃ stop, Stops (Reason data name) stop ∧ ofBlob data name = fail stop ∧
      ∀ visit, forEach data name visit = fail stop := by
  unfold ofBlob forEach
  cases parsed : Blob.parse data with
  | error cause => exact .inr ⟨_, stops_done (.unreadable parsed), rfl, fun _ => rfl⟩
  | ok blob =>
    simp only [Listing.find?, Program.bind_eq]
    cases search : blob.nodes.items.find? fun node => Node.baseName node.name == name with
    | none =>
      cases blob.nodes.defect with
      | some _ => exact .inr ⟨.fault, stops_fault, rfl, fun _ => rfl⟩
      | none =>
        have missing : Missing data name := by
          refine ⟨blob, parsed, fun node member same => ?_⟩
          rw [List.find?_eq_none] at search
          exact search node member (by simpa using same)
        exact .inr ⟨_, stops_done (.missing missing), rfl, fun _ => rfl⟩
    | some node =>
      simp only [readable, Program.done_bind]
      obtain ⟨parts, each, checked, collected⟩ | ⟨stop, stops, checked, collected⟩ :=
        blocks_cases blob name (blob.children node).items
      · simp only [checked, collected, Program.done_bind]
        cases (blob.children node).toList with
        | error _ => exact .inr ⟨.fault, stops_fault, rfl, fun _ => rfl⟩
        | ok _ =>
          refine .inl ⟨_, ⟨blob, node, parts, parsed, search, each, rfl⟩, rfl, fun visit => ?_⟩
          simp only [Program.done_bind, visitBlocks_eq each, bind_assoc, Nat.zero_add]
          rfl
      · have refused : Stops (Reason data name) stop := stops.mono fun cause refuses => by
          rw [refuses.1]
          exact .refused ⟨blob, node, parsed, search, refuses.2⟩
        refine .inr ⟨stop, refused, ?_, fun visit => ?_⟩
        · rw [collected, fail, bind_assoc]
          rfl
        · rw [checked, fail, bind_assoc]
          rfl

theorem not_malformed_of_describes {part : List Setting} (describes : blob.Describes child part) :
    ¬ blob.Malformed child := by
  intro malformed
  cases describes with
  | nothing absent =>
    cases malformed with
    | unplaced present _ _ => cases absent.symm.trans present
    | incomplete present _ _ => cases absent.symm.trans present
    | outside present _ _ _ _ => cases absent.symm.trans present
  | block present read first whole inside =>
    cases malformed with
    | unplaced present' read' first' =>
      cases read.symm.trans read'
      cases first.symm.trans first'
    | incomplete present' _ odd =>
      cases present.symm.trans present'
      exact odd whole
    | outside present' read' first' within beyond =>
      cases present.symm.trans present'
      cases read.symm.trans read'
      cases first.symm.trans first'
      exact Nat.not_le.2 (inside _ within) beyond

theorem exists_part {children : List Node} {parts : List (List Setting)}
    (each : List.Forall₂ blob.Describes children parts) (member : child ∈ children) :
    ∃ part ∈ parts, blob.Describes child part := by
  induction each with
  | nil => cases member
  | cons describes _ ih =>
    rcases List.mem_cons.1 member with rfl | there
    · exact ⟨_, List.mem_cons_self, describes⟩
    · obtain ⟨part, known, described⟩ := ih there
      exact ⟨part, List.mem_cons_of_mem _ known, described⟩

theorem exists_child {children : List Node} {parts : List (List Setting)} {part : List Setting}
    (each : List.Forall₂ blob.Describes children parts) (member : part ∈ parts) :
    ∃ child ∈ children, blob.Describes child part := by
  induction each with
  | nil => cases member
  | cons describes _ ih =>
    rcases List.mem_cons.1 member with rfl | there
    · exact ⟨_, List.mem_cons_self, describes⟩
    · obtain ⟨child, known, described⟩ := ih there
      exact ⟨child, List.mem_cons_of_mem _ known, described⟩

theorem Listed.not_refused {settings : List Setting} (listed : Listed data name settings) :
    ¬ Refused data name := by
  obtain ⟨blob, node, parts, parsed, search, each, -⟩ := listed
  rintro ⟨blob', node', parsed', search', child, member, malformed⟩
  cases parsed.symm.trans parsed'
  cases search.symm.trans search'
  obtain ⟨part, -, describes⟩ := exists_part each member
  exact not_malformed_of_describes describes malformed

theorem Missing.not_found {node : Node} (missing : Missing data name)
    (parsed : Blob.parse data = .ok blob)
    (search : blob.nodes.items.find? (fun node => Node.baseName node.name == name) = some node) :
    False := by
  obtain ⟨blob', parsed', missing⟩ := missing
  cases parsed.symm.trans parsed'
  have same := List.find?_some search
  exact missing node (List.mem_of_find?_eq_some search) (by simpa using same)

/-- A run consists of the visits of what the node lists, or stops where every visitor stops. -/
theorem runs_forEach {trace : Trace} {result : Except Error Nat}
    (run : Runs (forEach data name visit) trace (some result)) :
    (∃ settings, result = .ok settings.length ∧ Listed data name settings ∧
      Runs (settings.forM visit) trace (some ())) ∨
    ∃ cause, result = .error cause ∧ Reason data name cause ∧
      (∀ event ∈ trace, Logging event.op) ∧
      ∀ other, Runs (forEach data name other) trace (some (.error cause)) := by
  obtain ⟨settings, listed, -, visits⟩ | ⟨stop, stops, -, visits⟩ := forEach_cases data name
  · rw [visits] at run
    obtain ⟨_, _, _, rfl, visiting, ended⟩ := Runs.bind_some_iff.1 run
    obtain ⟨rfl, same⟩ := Runs.done_iff.1 ended
    cases same
    rw [List.append_nil]
    exact .inl ⟨settings, rfl, listed, visiting⟩
  · simp only [visits] at run ⊢
    obtain ⟨_, _, cause, rfl, stopping, ended⟩ := Runs.bind_some_iff.1 run
    obtain ⟨rfl, same⟩ := Runs.done_iff.1 ended
    cases same
    rw [List.append_nil] at run ⊢
    exact .inr ⟨cause, rfl, stops.reason cause ⟨_, stopping⟩, stopping.uses stops.uses,
      fun _ => run⟩

theorem Missing.not_listed {settings : List Setting} (missing : Missing data name) :
    ¬ Listed data name settings := by
  rintro ⟨blob, node, parts, parsed, search, -⟩
  exact missing.not_found parsed search

theorem Missing.not_refused (missing : Missing data name) : ¬ Refused data name := by
  rintro ⟨blob, node, parsed, search, -⟩
  exact missing.not_found parsed search

theorem Reason.invalidSettings_iff {cause : Error} (reason : Reason data name cause) :
    Except.error (α := Nat) cause = .error (.invalidSettings name) ↔ Refused data name := by
  cases reason with
  | refused h => exact ⟨fun _ => h, fun _ => rfl⟩
  | missing h => exact ⟨fun same => (nomatch same), fun refused => absurd refused h.not_refused⟩
  | unreadable h =>
    refine ⟨fun same => (nomatch same), fun ⟨_, _, parsed, _⟩ => ?_⟩
    cases h.symm.trans parsed

theorem Reason.nodeNotFound_iff {cause : Error} (reason : Reason data name cause) :
    Except.error (α := Nat) cause = .error (.nodeNotFound name) ↔ Missing data name := by
  cases reason with
  | missing h => exact ⟨fun _ => h, fun _ => rfl⟩
  | refused h => exact ⟨fun same => (nomatch same), fun missing => absurd h missing.not_refused⟩
  | unreadable h =>
    refine ⟨fun same => (nomatch same), fun ⟨_, parsed, _⟩ => ?_⟩
    cases h.symm.trans parsed

theorem forEach_eq (data : Bytes) (name : String) (visit : Setting → Program Unit) :
    forEach data name visit = (ofBlob data name).bind (visitAll visit) := by
  obtain ⟨settings, -, collected, visits⟩ | ⟨stop, -, collected, visits⟩ := forEach_cases data name
  · rw [visits, collected]
    rfl
  · rw [visits, collected, fail, fail, bind_assoc]
    rfl

theorem apply_eq (data : Bytes) (name : String) :
    apply data name = forEach data name Setting.apply := by
  rw [forEach_eq]
  unfold apply
  congr 1

end Settings

end BringUp.DeviceTree
