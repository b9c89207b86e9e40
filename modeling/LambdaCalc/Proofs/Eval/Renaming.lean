import LambdaCalc.Host.Stock
import LambdaCalc.Proofs.Eval.Simulation

namespace LambdaCalc

inductive Referent where
  | free (name : String)
  | bound (scope position : Nat)
deriving DecidableEq

inductive Nameless where
  | literal (n : Number)
  | name (referent : Referent)
  | lambda (count : Nat) (body : Nameless)
  | call (operator : Nameless) (operands : List Nameless)

def Referent.outward : Referent → Referent
  | free name => free name
  | bound scope position => bound (scope + 1) position

/-- What a name refers to inside of lambdas with these parameters, the innermost first. Positions count
from the last parameter, which is the one that a repeated name stands for. -/
def Referent.ofName : List (List String) → String → Referent
  | [], x => free x
  | parameters :: outer, x =>
    if x ∈ parameters then bound 0 (parameters.reverse.idxOf x) else (ofName outer x).outward

namespace Expr

mutual

def nameless (scopes : List (List String)) : Expr → Nameless
  | literal n => .literal n
  | name identifier => .name (.ofName scopes identifier)
  | lambda parameters body => .lambda parameters.length (body.nameless (parameters :: scopes))
  | call operator operands => .call (operator.nameless scopes) (namelessAll scopes operands)

def namelessAll (scopes : List (List String)) : List Expr → List Nameless
  | [] => []
  | e :: es => e.nameless scopes :: namelessAll scopes es

end

def AlphaEquivalent (d e : Expr) : Prop := d.nameless [] = e.nameless []

end Expr

/-- Environments of renamed expressions: related arguments under the parameters of either side, and in
the end one environment for both. -/
inductive Env.Renamed (values : Value → Value → Prop) :
    List (List String) → List (List String) → Env → Env → Prop where
  | root {env : Env} : Renamed values [] [] env env
  | frame {scopes others : List (List String)} {env sub : Env} {parameters renamed : List String}
      {args images : List Value} {m n : Nat} (outer : Renamed values scopes others env sub)
      (counted : args.length = parameters.length) (fits : renamed.length = parameters.length)
      (same : List.Forall₂ values args images) :
      Renamed values (parameters :: scopes) (renamed :: others) (env.extend m parameters args)
        (sub.extend n renamed images)

/-- Values up to renaming: the lambdas of closures are alpha-equivalent below the parameters that their
environments bind. -/
inductive Value.Renamed : Value → Value → Prop where
  | number {n : Number} : Renamed (.number n) (.number n)
  | primitive {serial : Nat} {name : String} {host : Host} :
      Renamed (.primitive serial name host) (.primitive serial name host)
  | closure {serial other : Nat} {scopes others : List (List String)} {parameters renamed : List String}
      {body image : Expr} {env sub : Env} (frames : Env.Renamed Renamed scopes others env sub)
      (same : (Expr.lambda parameters body).nameless scopes = (Expr.lambda renamed image).nameless others) :
      Renamed (.closure serial parameters body env) (.closure other renamed image sub)

namespace Referent

theorem outward_injective {r s : Referent} (same : r.outward = s.outward) : r = s := by
  cases r <;> cases s <;> simp_all [outward]

theorem outward_ne_bound_zero (r : Referent) (position : Nat) : r.outward ≠ bound 0 position := by
  cases r <;> simp [outward]

theorem ofName_cons_eq {scopes others : List (List String)} {parameters renamed : List String} {x y : String}
    (same : ofName (parameters :: scopes) x = ofName (renamed :: others) y) :
    (x ∈ parameters ∧ y ∈ renamed ∧ parameters.reverse.idxOf x = renamed.reverse.idxOf y) ∨
      (x ∉ parameters ∧ y ∉ renamed ∧ ofName scopes x = ofName others y) := by
  unfold ofName at same
  by_cases here : x ∈ parameters
  · by_cases there : y ∈ renamed
    · rw [if_pos here, if_pos there] at same
      injection same with _ position
      exact .inl ⟨here, there, position⟩
    · rw [if_pos here, if_neg there] at same
      exact absurd same.symm (outward_ne_bound_zero _ _)
  · by_cases there : y ∈ renamed
    · rw [if_neg here, if_pos there] at same
      exact absurd same (outward_ne_bound_zero _ _)
    · rw [if_neg here, if_neg there] at same
      exact .inr ⟨here, there, outward_injective same⟩

end Referent

namespace Expr

variable {scopes others : List (List String)} {e : Expr}

theorem forall₂_of_namelessAll_eq {es ds : List Expr} (same : namelessAll scopes es = namelessAll others ds) :
    List.Forall₂ (fun e d => e.nameless scopes = d.nameless others) es ds := by
  induction es generalizing ds with
  | nil =>
    cases ds with
    | nil => exact .nil
    | cons d ds => cases same
  | cons e es ih =>
    cases ds with
    | nil => cases same
    | cons d ds =>
      injection same with first rest
      exact .cons first (ih rest)

theorem nameless_eq_literal {n : Number} (same : e.nameless scopes = .literal n) : e = literal n := by
  cases e with
  | literal m =>
    cases same
    rfl
  | name identifier => cases same
  | lambda parameters body => cases same
  | call operator operands => cases same

theorem nameless_eq_name {referent : Referent} (same : e.nameless scopes = .name referent) :
    ∃ x, e = name x ∧ Referent.ofName scopes x = referent := by
  cases e with
  | literal m => cases same
  | name identifier =>
    injection same with referents
    exact ⟨identifier, rfl, referents⟩
  | lambda parameters body => cases same
  | call operator operands => cases same

theorem nameless_eq_lambda {count : Nat} {inner : Nameless} (same : e.nameless scopes = .lambda count inner) :
    ∃ parameters body, e = lambda parameters body ∧ parameters.length = count ∧
      body.nameless (parameters :: scopes) = inner := by
  cases e with
  | literal m => cases same
  | name identifier => cases same
  | lambda parameters body =>
    injection same with counts bodies
    exact ⟨parameters, body, rfl, counts, bodies⟩
  | call operator operands => cases same

theorem nameless_eq_call {first : Nameless} {rest : List Nameless} (same : e.nameless scopes = .call first rest) :
    ∃ operator operands, e = call operator operands ∧ operator.nameless scopes = first ∧
      namelessAll scopes operands = rest := by
  cases e with
  | literal m => cases same
  | name identifier => cases same
  | lambda parameters body => cases same
  | call operator operands =>
    injection same with operators others
    exact ⟨operator, operands, rfl, operators, others⟩

end Expr

theorem Value.Renamed.refl (value : Value) : value.Renamed value := by
  cases value with
  | number n => exact .number
  | closure serial parameters body env => exact .closure .root rfl
  | primitive serial name host => exact .primitive

theorem Env.Renamed.rel_lookup {scopes others : List (List String)} {env sub : Env} {x y : String}
    (frames : Env.Renamed Value.Renamed scopes others env sub)
    (same : Referent.ofName scopes x = Referent.ofName others y) :
    Option.Rel Value.Renamed (env.lookup x) (sub.lookup y) ∧ (env.lookup x = none → x = y) := by
  induction frames with
  | @root env =>
    injection same with names
    subst names
    refine ⟨?_, fun _ => rfl⟩
    cases env.lookup x with
    | none => exact .none
    | some value => exact .some (.refl value)
  | @frame scopes others env sub parameters renamed args images m n outer counted fits arguments ih =>
    have absent := Frame.lookup_zip_eq_none_iff counted x
    rcases Referent.ofName_cons_eq same with ⟨here, there, position⟩ | ⟨here, there, further⟩
    · refine ⟨rel_lookup_extend arguments counted fits position (absurd here) m n, ?_⟩
      intro unbound
      rw [lookup_extend, Option.or_eq_none_iff] at unbound
      exact absurd here (absent.mp unbound.1)
    · obtain ⟨related, unbound⟩ := ih further
      -- A name that is not there has the position after the last, and the lists are of one length.
      have position : parameters.reverse.idxOf x = renamed.reverse.idxOf y := by
        rw [List.idxOf_eq_length (by simpa using here), List.idxOf_eq_length (by simpa using there),
          List.length_reverse, List.length_reverse, fits]
      refine ⟨rel_lookup_extend arguments counted fits position (fun _ => related) m n, ?_⟩
      rw [lookup_extend, absent.mpr here, Option.none_or]
      exact unbound

theorem renamed_simulation :
    Simulation Value.Renamed fun env e sub d => ∃ scopes others,
      Env.Renamed Value.Renamed scopes others env sub ∧ e.nameless scopes = d.nameless others where
  number _ := .number
  value related := by
    cases related with
    | number => exact .number
    | primitive => exact .primitive
    | closure frames same =>
      injection same with counts bodies
      apply ValuesFit.closure counts.symm
      intro m n args images counted arguments
      exact ⟨_, _, .frame frames counted counts.symm arguments, bodies⟩
  state := by
    rintro env e sub d ⟨scopes, others, frames, same⟩
    cases e with
    | literal n =>
      rw [Expr.nameless_eq_literal same.symm]
      exact .literal
    | name x =>
      obtain ⟨y, rfl, referents⟩ := Expr.nameless_eq_name same.symm
      obtain ⟨related, unbound⟩ := frames.rel_lookup referents.symm
      exact .name related unbound
    | lambda parameters body =>
      obtain ⟨renamed, image, rfl, -, -⟩ := Expr.nameless_eq_lambda same.symm
      exact .lambda fun m n => .closure frames same
    | call operator operands =>
      obtain ⟨image, images, rfl, operators, rest⟩ := Expr.nameless_eq_call same.symm
      apply StatesFit.call
      · exact ⟨scopes, others, frames, operators.symm⟩
      · have pairwise := Expr.forall₂_of_namelessAll_eq rest.symm
        exact pairwise.imp fun e d same => ⟨scopes, others, frames, same⟩

/-- Renaming parameters cannot be observed, whatever the root environment and the limit. -/
theorem evaluate_renamed_of_alphaEquivalent (room : Nat) (limit : Int) (root : Env) {d e : Expr}
    (same : d.AlphaEquivalent e) (v w : World) :
    Matches Value.Renamed (evaluate room limit root d v).1 (evaluate room limit root e w).1 ∧
      ∃ calls, (evaluate room limit root d v).2.calls = v.calls ++ calls ∧
        (evaluate room limit root e w).2.calls = w.calls ++ calls :=
  renamed_simulation.evaluate_parallel room limit ⟨[], [], .root, same⟩ v w

/-- Once `rec` hides the primitive of that name and the inner `x` the outer one; once `x` stands for
what was `rec`, and `rec` for what was the outer `x`. -/
theorem evaluate_renamed_of_alphaEquivalent_hidden :
    let root := Env.ofTable 0 [("rec", Host.recorder)]
    let d : Expr := .call (.lambda ["rec", "x"]
      (.call (.lambda ["x"] (.call (.name "rec") [.name "x"])) [.name "x"]))
      [.name "rec", .literal (.int 5)]
    let e : Expr := .call (.lambda ["x", "rec"]
      (.call (.lambda ["y"] (.call (.name "x") [.name "y"])) [.name "rec"]))
      [.name "rec", .literal (.int 5)]
    d.AlphaEquivalent e ∧
      Matches Value.Renamed (evaluate 9 9 root d {}).1 (evaluate 9 9 root e {}).1 ∧
      (evaluate 9 9 root d {}).2.calls = [[.int 5]] ∧ (evaluate 9 9 root e {}).2.calls = [[.int 5]] := by
  intro root d e
  have same : d.AlphaEquivalent e := rfl
  obtain ⟨outcomes, calls, one, two⟩ := evaluate_renamed_of_alphaEquivalent 9 9 root same {} {}
  have logged : (evaluate 9 9 root d {}).2.calls = [[.int 5]] := rfl
  refine ⟨same, outcomes, logged, ?_⟩
  rw [two, ← one, logged]

end LambdaCalc
