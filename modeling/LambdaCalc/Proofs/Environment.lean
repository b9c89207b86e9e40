import LambdaCalc.Value

namespace LambdaCalc

namespace Frame

variable {α : Type}

theorem lookup_pair (key name : String) (value : α) (rest : List (String × α)) :
    ((name, value) :: rest).lookup key = if key = name then some value else rest.lookup key := by
  by_cases same : key = name
  · simp [same]
  · rw [List.lookup_cons, beq_false_of_ne same, if_neg same]

theorem lookup_eq_none_iff_keys {vars : List (String × α)} {key : String} :
    vars.lookup key = none ↔ key ∉ vars.map Prod.fst := by
  rw [List.lookup_eq_none_iff]
  constructor
  · intro differs member
    obtain ⟨var, inside, rfl⟩ := List.mem_map.mp member
    simpa using differs var inside
  · intro absent var inside
    exact bne_iff_ne.mpr fun same => absent (List.mem_map.mpr ⟨var, inside, same.symm⟩)

theorem lookup_assign (vars : List (String × α)) (name key : String) (value : α) :
    (assign vars name value).lookup key = if key = name then some value else vars.lookup key := by
  induction vars with
  | nil => simp only [assign, lookup_pair]
  | cons var rest ih =>
    obtain ⟨k, old⟩ := var
    simp only [assign]
    by_cases there : k = name
    · subst there
      simp only [↓reduceIte, lookup_pair]
      split <;> rfl
    · simp only [there, ↓reduceIte, lookup_pair, ih]
      by_cases found : key = k
      · simp only [found, there, ↓reduceIte]
      · simp only [found, ↓reduceIte]

theorem get?_ofPairs (serial : Nat) (pairs : List (String × α)) (name : String) :
    (ofPairs serial pairs).get? name = pairs.reverse.lookup name := by
  have general : ∀ vars : List (String × α),
      (pairs.foldl (fun vars p => assign vars p.1 p.2) vars).lookup name =
        (pairs.reverse.lookup name).or (vars.lookup name) := by
    induction pairs with
    | nil => intro vars; simp
    | cons pair rest ih =>
      intro vars
      rw [List.foldl_cons, ih, lookup_assign, List.reverse_cons, List.lookup_append, Option.or_assoc,
        lookup_pair, List.lookup_nil]
      by_cases same : name = pair.1 <;> simp [same]
  simpa [get?, ofPairs] using general []

theorem mem_assign {vars : List (String × α)} {name : String} {value : α} {var : String × α}
    (member : var ∈ assign vars name value) : var ∈ vars ∨ var = (name, value) := by
  induction vars with
  | nil => exact .inr (List.mem_singleton.mp member)
  | cons first rest ih =>
    obtain ⟨k, old⟩ := first
    rw [assign] at member
    by_cases there : k = name
    · rw [if_pos there] at member
      rcases List.mem_cons.mp member with same | later
      · exact .inr (there ▸ same)
      · exact .inl (List.mem_cons_of_mem _ later)
    · rw [if_neg there] at member
      rcases List.mem_cons.mp member with same | later
      · exact .inl (List.mem_cons.mpr (.inl same))
      · exact (ih later).imp_left (List.mem_cons_of_mem _)

theorem mem_of_mem_ofPairs {serial : Nat} {pairs : List (String × α)} {var : String × α}
    (member : var ∈ (ofPairs serial pairs).vars) : var ∈ pairs := by
  have general : ∀ vars : List (String × α),
      var ∈ pairs.foldl (fun vars p => assign vars p.1 p.2) vars → var ∈ vars ∨ var ∈ pairs := by
    clear member
    induction pairs with
    | nil => exact fun vars inside => .inl inside
    | cons pair rest ih =>
      intro vars inside
      rcases ih _ inside with early | late
      · rcases mem_assign early with old | rfl
        · exact .inl old
        · exact .inr List.mem_cons_self
      · exact .inr (List.mem_cons_of_mem pair late)
  rcases general [] member with none | inside
  · exact absurd none List.not_mem_nil
  · exact inside

theorem lookup_zip_eq_getElem? {names : List String} {values : List α} (counted : values.length = names.length)
    (x : String) : (names.zip values).lookup x = values[names.idxOf x]? := by
  induction names generalizing values with
  | nil =>
    cases List.length_eq_zero_iff.mp counted
    rfl
  | cons name names ih =>
    cases values with
    | nil => cases counted
    | cons value values =>
      rw [List.zip_cons_cons, lookup_pair, List.idxOf_cons]
      by_cases same : x = name
      · simp [same]
      · have later : (name == x) = false := beq_false_of_ne (Ne.symm same)
        rw [if_neg same, later, ih (Nat.succ.inj counted)]
        rfl

theorem lookup_zip_reverse {names : List String} {values : List α} (counted : values.length = names.length)
    (x : String) : (names.zip values).reverse.lookup x = values.reverse[names.reverse.idxOf x]? := by
  have turned : (names.zip values).reverse = names.reverse.zip values.reverse :=
    List.reverse_zipWith counted.symm
  rw [turned]
  apply lookup_zip_eq_getElem?
  rw [List.length_reverse, List.length_reverse, counted]

theorem lookup_zip_eq_none_iff {names : List String} {values : List α}
    (counted : values.length = names.length) (x : String) :
    (names.zip values).reverse.lookup x = none ↔ x ∉ names := by
  have keys : (names.zip values).reverse.map Prod.fst = names.reverse := by
    rw [List.map_reverse, List.map_fst_zip (Nat.le_of_eq counted.symm)]
  rw [lookup_eq_none_iff_keys, keys, List.mem_reverse]

def BindsExactly (frame : Frame α) (names : List String) : Prop := ∀ x, frame.binds x = true ↔ x ∈ names

theorem binds_eq_false_iff {frame : Frame α} {name : String} :
    frame.binds name = false ↔ frame.get? name = none := by
  rw [binds, Option.isSome_eq_false_iff, Option.isNone_iff_eq_none]

theorem bindsExactly_ofPairs {names : List String} {values : List α} (serial : Nat)
    (counted : values.length = names.length) : (ofPairs serial (names.zip values)).BindsExactly names := by
  intro x
  have absent := lookup_zip_eq_none_iff counted x
  rw [← get?_ofPairs serial, ← binds_eq_false_iff] at absent
  rw [← Bool.not_eq_false, absent, Classical.not_not]

end Frame

namespace Env

theorem lookup_cons (frame : Frame Value) (env : Env) (name : String) :
    Env.lookup (frame :: env) name = (frame.get? name).or (Env.lookup env name) := by
  cases bound : frame.get? name <;>
    simp [Env.lookup, Env.find?, Frame.binds, bound]

theorem lookup_append (front back : Env) (name : String) :
    Env.lookup (front ++ back) name = (Env.lookup front name).or (Env.lookup back name) := by
  induction front with
  | nil => simp [Env.lookup, Env.find?]
  | cons frame rest ih => rw [List.cons_append, lookup_cons, lookup_cons, ih, Option.or_assoc]

theorem lookup_extend (env : Env) (serial : Nat) (names : List String) (values : List Value)
    (name : String) :
    (env.extend serial names values).lookup name =
      ((names.zip values).reverse.lookup name).or (env.lookup name) := by
  rw [extend, lookup_cons, Frame.get?_ofPairs]

inductive Binds : Env → String → Value → Prop where
  | here {frame : Frame Value} {env : Env} {name : String} {value : Value}
      (found : frame.get? name = some value) : Binds (frame :: env) name value
  | outer {frame : Frame Value} {env : Env} {name : String} {value : Value}
      (absent : frame.get? name = none) (further : Binds env name value) :
      Binds (frame :: env) name value

theorem lookup_eq_some_iff {env : Env} {name : String} {value : Value} :
    env.lookup name = some value ↔ Binds env name value := by
  induction env with
  | nil =>
    constructor
    · intro found
      cases found
    · intro binding
      cases binding
  | cons frame rest ih =>
    rw [lookup_cons]
    cases bound : frame.get? name with
    | none =>
      rw [Option.none_or, ih]
      constructor
      · exact Binds.outer bound
      · intro binding
        cases binding with
        | here found => simp [bound] at found
        | outer absent further => exact further
    | some inner =>
      rw [Option.some_or, Option.some.injEq]
      constructor
      · rintro rfl
        exact .here bound
      · intro binding
        cases binding with
        | here found => simpa [bound] using found
        | outer absent further => simp [bound] at absent

theorem lookup_eq_none_iff {env : Env} {name : String} :
    env.lookup name = none ↔ ∀ frame ∈ env, frame.get? name = none := by
  induction env with
  | nil => simp [Env.lookup, Env.find?]
  | cons frame rest ih => rw [lookup_cons, Option.or_eq_none_iff, ih, List.forall_mem_cons]

theorem mem_of_lookup {env : Env} {name : String} {value : Value} (found : env.lookup name = some value) :
    ∃ frame ∈ env, (name, value) ∈ frame.vars := by
  induction lookup_eq_some_iff.mp found with
  | @here frame env name value here =>
    obtain ⟨before, after, split, -⟩ := List.lookup_eq_some_iff.mp here
    exact ⟨frame, List.mem_cons_self, by rw [split]; simp⟩
  | @outer frame env name value absent further ih =>
    obtain ⟨other, inside, bound⟩ := ih (lookup_eq_some_iff.mpr further)
    exact ⟨other, List.mem_cons_of_mem frame inside, bound⟩

theorem mem_extend {env : Env} {serial : Nat} {names : List String} {values : List Value}
    {frame : Frame Value} {var : String × Value} (inside : frame ∈ env.extend serial names values)
    (bound : var ∈ frame.vars) : var.2 ∈ values ∨ frame ∈ env := by
  rcases List.mem_cons.mp inside with rfl | outer
  · exact .inl (List.of_mem_zip (Frame.mem_of_mem_ofPairs bound)).2
  · exact .inr outer

def All (q : Value → Prop) (env : Env) : Prop := ∀ frame ∈ env, ∀ var ∈ frame.vars, q var.2

section

variable {q : Value → Prop} {env : Env}

theorem All.lookup (frames : env.All q) {name : String} {value : Value}
    (found : env.lookup name = some value) : q value := by
  obtain ⟨frame, inside, bound⟩ := mem_of_lookup found
  exact frames frame inside (name, value) bound

theorem All.extend (frames : env.All q) {values : List Value} (each : ∀ value ∈ values, q value)
    (serial : Nat) (names : List String) : (env.extend serial names values).All q := by
  intro frame inside var bound
  rcases mem_extend inside bound with argument | outer
  · exact each var.2 argument
  · exact frames frame outer var bound

end

theorem mem_ofTable {serial : Nat} {table : List (String × Host)} {frame : Frame Value}
    {var : String × Value} (inside : frame ∈ Env.ofTable serial table) (bound : var ∈ frame.vars) :
    ∃ k name host, var.2 = .primitive k name host ∧ (name, host) ∈ table := by
  rw [List.mem_singleton.mp inside] at bound
  obtain ⟨⟨⟨name, host⟩, i⟩, member, rfl⟩ := List.mem_map.mp bound
  exact ⟨_, name, host, rfl, Frame.mem_of_mem_ofPairs (List.fst_mem_of_mem_zipIdx member)⟩

theorem lookup_ofTable_eq_none_iff {serial : Nat} {table : List (String × Host)} {name : String} :
    (Env.ofTable serial table).lookup name = none ↔ name ∉ table.map Prod.fst := by
  have entries : (Frame.ofPairs 0 table).vars.lookup name = none ↔ name ∉ table.map Prod.fst := by
    have last := Frame.get?_ofPairs 0 table name
    rw [Frame.get?] at last
    rw [last, Frame.lookup_eq_none_iff_keys, List.map_reverse, List.mem_reverse]
  rw [← entries, Frame.lookup_eq_none_iff_keys, lookup_eq_none_iff, ofTable, List.forall_mem_singleton,
    Frame.get?, Frame.lookup_eq_none_iff_keys, List.map_map]
  change name ∉ (Frame.ofPairs 0 table).vars.zipIdx.map (Prod.fst ∘ Prod.fst) ↔ _
  -- Numbering the entries leaves their names alone.
  rw [← List.map_map, List.zipIdx_map_fst]

end Env

end LambdaCalc
