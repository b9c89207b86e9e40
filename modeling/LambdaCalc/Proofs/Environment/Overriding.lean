import LambdaCalc.Proofs.Environment
import LambdaCalc.Workspace
import Mathlib.Data.List.Forall2

namespace LambdaCalc

variable {α : Type} {names : List String} {values : List α} {name : String} {value : α}

/-- In two lists side by side, as far as the shorter one goes, `value` is the last one beside `name`. -/
def LastPaired (names : List String) (values : List α) (name : String) (value : α) : Prop :=
  ∃ i, names[i]? = some name ∧ values[i]? = some value ∧
    ∀ j, i < j → j < min names.length values.length → names[j]? ≠ some name

theorem lookup_reverse_eq_some_iff {pairs : List (String × α)} :
    pairs.reverse.lookup name = some value ↔
      ∃ i : Nat, pairs[i]? = some (name, value) ∧
        ∀ (j : Nat) (pair : String × α), i < j → pairs[j]? = some pair → name ≠ pair.1 := by
  rw [List.lookup_eq_some_iff]
  constructor
  · rintro ⟨after, before, turned, differs⟩
    -- The pair is found from the end, so what precedes it there is what follows it here.
    have split : pairs = before.reverse ++ (name, value) :: after.reverse := by
      rw [← List.reverse_reverse pairs, turned, List.reverse_append, List.reverse_cons, List.append_assoc]
      rfl
    refine ⟨before.length, ?_, ?_⟩
    · rw [split, List.getElem?_append_right (Nat.le_of_eq List.length_reverse), List.length_reverse, Nat.sub_self]
      rfl
    · intro j pair later found
      obtain ⟨k, rfl⟩ : ∃ k, j = before.reverse.length + (k + 1) :=
        ⟨j - before.length - 1, by rw [List.length_reverse]; omega⟩
      rw [split, List.getElem?_append_right (Nat.le_add_right _ _), Nat.add_sub_cancel_left,
        List.getElem?_cons_succ] at found
      have member := List.mem_reverse.mp (List.mem_of_getElem? found)
      exact bne_iff_ne.mp (differs pair member)
  · rintro ⟨i, found, differs⟩
    obtain ⟨inside, here⟩ := List.getElem?_eq_some_iff.mp found
    refine ⟨(pairs.drop (i + 1)).reverse, (pairs.take i).reverse, ?_, ?_⟩
    · have split : pairs = pairs.take i ++ (name, value) :: pairs.drop (i + 1) := by
        rw [← here, ← List.drop_eq_getElem_cons, List.take_append_drop]
      conv => lhs; rw [split]
      rw [List.reverse_append, List.reverse_cons, List.append_assoc]
      rfl
    · intro pair member
      obtain ⟨k, place⟩ := List.mem_iff_getElem?.mp (List.mem_reverse.mp member)
      rw [List.getElem?_drop] at place
      exact bne_iff_ne.mpr (differs (i + 1 + k) pair (by omega) place)

theorem lookup_zip_eq_some_iff :
    (names.zip values).reverse.lookup name = some value ↔ LastPaired names values name value := by
  rw [lookup_reverse_eq_some_iff]
  apply exists_congr
  intro i
  rw [List.getElem?_zip_eq_some, and_assoc]
  apply and_congr_right
  intro _
  apply and_congr_right
  intro _
  constructor
  · intro differs j later within same
    obtain ⟨_, second⟩ := Nat.lt_min.mp within
    have pair : (names.zip values)[j]? = some (name, values[j]) :=
      List.getElem?_zip_eq_some.mpr ⟨same, List.getElem?_eq_getElem second⟩
    exact differs j _ later pair rfl
  · intro differs j pair later found same
    obtain ⟨first, second⟩ := List.getElem?_zip_eq_some.mp found
    have within : j < min names.length values.length :=
      Nat.lt_min.mpr ⟨List.getElem?_eq_some_iff.mp first |>.1, List.getElem?_eq_some_iff.mp second |>.1⟩
    exact differs j later within (same ▸ first)

namespace Env

variable {env : Env}

structure Extension where
  serial : Nat
  names : List String
  values : List Value

/-- The frame binds every name to the last value beside it, and nothing else. -/
def Extension.Makes (x : Extension) (frame : Frame Value) : Prop :=
  frame.serial = x.serial ∧ ∀ name value, frame.get? name = some value ↔ LastPaired x.names x.values name value

def extendAll (env : Env) (extensions : List Extension) : Env :=
  extensions.foldl (fun env x => env.extend x.serial x.names x.values) env

theorem extend_makes (env : Env) (x : Extension) :
    ∃ frame, env.extend x.serial x.names x.values = frame :: env ∧ x.Makes frame := by
  refine ⟨Frame.ofPairs x.serial (x.names.zip x.values), rfl, rfl, ?_⟩
  intro name value
  rw [Frame.get?_ofPairs, lookup_zip_eq_some_iff]

theorem extendAll_makes (env : Env) (extensions : List Extension) :
    ∃ frames, env.extendAll extensions = frames.reverse ++ env ∧
      List.Forall₂ Extension.Makes extensions frames := by
  induction extensions generalizing env with
  | nil => exact ⟨[], rfl, .nil⟩
  | cons x extensions ih =>
    obtain ⟨frame, front, first⟩ := env.extend_makes x
    obtain ⟨frames, chain, rest⟩ := ih (env.extend x.serial x.names x.values)
    refine ⟨frame :: frames, ?_, .cons first rest⟩
    rw [List.reverse_cons, List.append_assoc, List.singleton_append, ← front]
    exact chain

theorem find?_eq_some_iff {frame : Frame Value} :
    env.find? name = some frame ↔ ∃ inner outer, env = inner ++ frame :: outer ∧ frame.binds name = true ∧
      ∀ other ∈ inner, other.binds name = false := by
  rw [find?, List.find?_eq_some_iff_append]
  simp only [Bool.not_eq_true']
  constructor
  · rintro ⟨bound, inner, outer, chain, unbound⟩
    exact ⟨inner, outer, chain, bound, unbound⟩
  · rintro ⟨inner, outer, chain, bound, unbound⟩
    exact ⟨bound, inner, outer, chain, unbound⟩

theorem lookup_of_find? {frame : Frame Value} (found : env.find? name = some frame) :
    ∃ value, frame.get? name = some value ∧ env.lookup name = some value := by
  obtain ⟨_, _, _, bound, _⟩ := find?_eq_some_iff.mp found
  obtain ⟨value, get⟩ := Option.isSome_iff_exists.mp bound
  refine ⟨value, get, ?_⟩
  rw [lookup, found, Option.bind_some, get]

theorem contains_iff_find? : env.contains (some name) = true ↔ ∃ frame, env.find? name = some frame := by
  rw [contains, Option.bind_some, Option.isSome_iff_exists]

theorem lookIn_of_lookup {value : Value} (found : env.lookup name = some value) :
    Workspace.lookIn env name = .ok (.value value) := by
  rw [Workspace.lookIn, found]

theorem lookIn_of_not_contains (absent : ¬env.contains (some name) = true) :
    Workspace.lookIn env name = .error (.eval (.unbound name)) := by
  have none : env.find? name = none := by
    rw [contains_iff_find?] at absent
    cases found : env.find? name with
    | none => rfl
    | some frame => exact absurd ⟨frame, found⟩ absent
  rw [Workspace.lookIn, lookup, none]
  rfl

/-- A new frame binds each of its names to the last value beside it and leaves the others as they were. A name is
contained exactly if a frame is found, exactly if it has a value; the frame is the first of the frames that binds
the name, and its binding is the value. After any number of extensions the new frames stand in front, the last one
first. -/
theorem chain_overrides (env : Env) (name : String) (x : Extension) (extensions : List Extension) :
    (∀ value, LastPaired x.names x.values name value →
      Workspace.lookIn (env.extend x.serial x.names x.values) name = .ok (.value value)) ∧
    ((¬∃ value, LastPaired x.names x.values name value) →
      Workspace.lookIn (env.extend x.serial x.names x.values) name = Workspace.lookIn env name) ∧
    ((∃ value, Workspace.lookIn env name = .ok (.value value)) ↔ env.contains (some name) = true) ∧
    (env.contains (some name) = true ↔ ∃ frame, env.find? name = some frame) ∧
    (¬env.contains (some name) = true → Workspace.lookIn env name = .error (.eval (.unbound name))) ∧
    (∀ frame, env.find? name = some frame ↔ ∃ inner outer, env = inner ++ frame :: outer ∧
      frame.binds name = true ∧ ∀ other ∈ inner, other.binds name = false) ∧
    (∀ frame, env.find? name = some frame → ∃ value, frame.get? name = some value ∧
      Workspace.lookIn env name = .ok (.value value)) ∧
    ∃ frames, env.extendAll extensions = frames.reverse ++ env ∧
      List.Forall₂ Extension.Makes extensions frames := by
  have overridden := env.lookup_extend x.serial x.names x.values name
  have valued : ∀ frame, env.find? name = some frame → ∃ value, frame.get? name = some value ∧
      Workspace.lookIn env name = .ok (.value value) := by
    intro frame found
    obtain ⟨value, get, bound⟩ := lookup_of_find? found
    exact ⟨value, get, lookIn_of_lookup bound⟩
  refine ⟨?_, ?_, ?_, contains_iff_find?, lookIn_of_not_contains, fun _ => find?_eq_some_iff, valued,
    env.extendAll_makes extensions⟩
  · intro value last
    rw [lookup_zip_eq_some_iff.mpr last] at overridden
    exact lookIn_of_lookup overridden
  · intro unpaired
    have absent : (x.names.zip x.values).reverse.lookup name = none := by
      cases found : (x.names.zip x.values).reverse.lookup name with
      | none => rfl
      | some value => exact absurd ⟨value, lookup_zip_eq_some_iff.mp found⟩ unpaired
    rw [absent, Option.none_or] at overridden
    rw [Workspace.lookIn, Workspace.lookIn, overridden]
  · constructor
    · rintro ⟨value, looked⟩
      by_contra absent
      rw [lookIn_of_not_contains absent] at looked
      cases looked
    · intro contained
      obtain ⟨frame, found⟩ := contains_iff_find?.mp contained
      obtain ⟨value, -, looked⟩ := valued frame found
      exact ⟨value, looked⟩

/-- A name that comes twice, one that is bound outside only, and one that has no value beside it. -/
theorem chain_overrides_repeated :
    let number := fun n => Value.number (.int n)
    let root : Env := [⟨0, [("x", number 1), ("y", number 2)]⟩]
    let x : Extension := ⟨1, ["y", "z", "y", "w"], [number 20, number 30, number 21]⟩
    let inner := root.extend x.serial x.names x.values
    LastPaired x.names x.values "y" (number 21) ∧
      (¬∃ value, LastPaired x.names x.values "w" value) ∧
      Workspace.lookIn inner "y" = .ok (.value (number 21)) ∧
      Workspace.lookIn inner "x" = .ok (.value (number 1)) ∧
      Workspace.lookIn inner "w" = .error (.eval (.unbound "w")) := by
  intro number root x inner
  have last : LastPaired x.names x.values "y" (number 21) := by
    refine ⟨2, rfl, rfl, ?_⟩
    intro j later within
    have bound : j < 3 := within
    omega
  have unpaired : ∀ name, (x.names.zip x.values).reverse.lookup name = none →
      ¬∃ value, LastPaired x.names x.values name value := by
    rintro name absent ⟨value, paired⟩
    rw [lookup_zip_eq_some_iff.mpr paired] at absent
    cases absent
  have hidden := chain_overrides root "y" x []
  have outer := chain_overrides root "x" x []
  have nowhere := chain_overrides root "w" x []
  refine ⟨last, unpaired "w" rfl, hidden.1 (number 21) last, ?_, ?_⟩
  · exact outer.2.1 (unpaired "x" rfl)
  · exact nowhere.2.1 (unpaired "w" rfl)

end Env

end LambdaCalc
