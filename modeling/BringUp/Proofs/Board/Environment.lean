import BringUp.Board.Basic
import BringUp.Proofs.Program.Variables

/-! The environment of the board. Its limits only decide whether a value is stored, so the board
holds variables. -/
namespace BringUp.Board

namespace Environment

variable {name other value : String} {entries : List (String × String)}

theorem lookup_cons_eq {key old : String} : ((key, old) :: entries).lookup name =
    if name = key then some old else entries.lookup name := by
  rw [List.lookup_cons]
  by_cases here : name = key
  · rw [if_pos here, here, beq_self_eq_true]
  · rw [if_neg here, beq_false_of_ne here]

/-- A variable that exists has the new value, and the others keep theirs. -/
theorem lookup_replace (known : entries.lookup name ≠ none) :
    (replace name value entries).lookup other =
      if other = name then some value else entries.lookup other := by
  induction entries with
  | nil => exact absurd rfl known
  | cons entry rest ih =>
    obtain ⟨key, old⟩ := entry
    by_cases here : key = name
    · obtain rfl := here
      rw [replace, if_pos (beq_self_eq_true key), lookup_cons_eq, lookup_cons_eq]
      split <;> rfl
    · have later : rest.lookup name ≠ none := by
        rwa [lookup_cons_eq, if_neg (Ne.symm here)] at known
      rw [replace, if_neg (by simpa using here), lookup_cons_eq, lookup_cons_eq, ih later]
      by_cases same : other = key
      · rw [if_pos same, if_pos same, if_neg (same ▸ here)]
      · rw [if_neg same, if_neg same]

theorem lookup_concat (unknown : entries.lookup name = none) :
    (entries ++ [(name, value)]).lookup other =
      if other = name then some value else entries.lookup other := by
  rw [List.lookup_append, lookup_cons_eq, List.lookup_nil]
  by_cases same : other = name
  · rw [if_pos same, if_pos same, same, unknown, Option.none_or]
  · rw [if_neg same, if_neg same, Option.or_none]

/-- A value is refused, and the environment stays as it is, or it is stored under its name and
nothing else changes. -/
theorem set_cases (environment : Environment) (name value : String) :
    (∃ cause, environment.set name value = (.error cause, environment)) ∨
    ((environment.set name value).1 = .ok () ∧ (environment.set name value).2.get? =
      Function.update environment.get? name (some value)) := by
  unfold set
  by_cases long : environment.maxLength < value.utf8ByteSize
  · exact .inl ⟨_, if_pos long⟩
  rw [if_neg long]
  cases known : environment.get? name with
  | some old =>
    refine .inr ⟨rfl, funext fun other => ?_⟩
    rw [Function.update_apply]
    exact lookup_replace fun unknown => by cases known.symm.trans unknown
  | none =>
    rw [if_neg (by simp)]
    by_cases full : environment.capacity ≤ environment.entries.length
    · exact .inl ⟨_, if_pos full⟩
    rw [if_neg full]
    refine .inr ⟨rfl, funext fun other => ?_⟩
    rw [Function.update_apply]
    exact lookup_concat known

end Environment

theorem holdsVariables : HoldsVariables serve fun board => board.environment.get? where
  told _ _ := rfl
  asked _ _ := rfl
  stored name value board stored := by
    obtain ⟨cause, refused⟩ | ⟨-, same⟩ := board.environment.set_cases name value
    · cases (congrArg Prod.fst refused).symm.trans stored
    · exact same
  refused name value board cause refused := by
    obtain ⟨_, same⟩ | ⟨stored, -⟩ := board.environment.set_cases name value
    · exact congrArg (fun result => result.2.get?) same
    · cases refused.symm.trans stored

end BringUp.Board
