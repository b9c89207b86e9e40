import LambdaCalc.Host.Stock
import LambdaCalc.Proofs.Eval.Simulation
import LambdaCalc.Proofs.Places

namespace LambdaCalc

/-- Closures of one lambda are alike if their environments are, as far as the lambda reads them. -/
inductive Value.Alike : Value → Value → Prop where
  | number {n : Number} : Alike (.number n) (.number n)
  | primitive {serial : Nat} {name : String} {host : Host} :
      Alike (.primitive serial name host) (.primitive serial name host)
  | closure {serial other : Nat} {parameters : List String} {body : Expr} {env sub : Env}
      (agree : ∀ x ∈ (Expr.lambda parameters body).freeNames,
        Option.Rel Alike (env.lookup x) (sub.lookup x)) :
      Alike (.closure serial parameters body env) (.closure other parameters body sub)

namespace Env

/-- Each of the names is unbound in both environments or stands for values that are alike. -/
def AlikeOn (names : List String) (env sub : Env) : Prop :=
  ∀ x ∈ names, Option.Rel Value.Alike (env.lookup x) (sub.lookup x)

variable {env sub : Env}

theorem AlikeOn.mono {names others : List String} (agree : AlikeOn others env sub) (fewer : names ⊆ others) :
    AlikeOn names env sub := fun x member => agree x (fewer member)

theorem AlikeOn.extend {parameters : List String} {body : Expr} {args images : List Value}
    (agree : AlikeOn (Expr.lambda parameters body).freeNames env sub)
    (counted : args.length = parameters.length) (same : List.Forall₂ Value.Alike args images) (m n : Nat) :
    AlikeOn body.freeNames (env.extend m parameters args) (sub.extend n parameters images) := by
  intro x free
  apply rel_lookup_extend same counted rfl rfl
  intro outside
  exact agree x (Expr.mem_freeNames_lambda.mpr ⟨free, outside⟩)

end Env

theorem alike_simulation :
    Simulation Value.Alike fun env e sub d => e = d ∧ Env.AlikeOn e.freeNames env sub where
  number _ := .number
  value same := by
    cases same with
    | number => exact .number
    | primitive => exact .primitive
    | closure agree =>
      apply ValuesFit.closure rfl
      intro m n args images counted arguments
      exact ⟨rfl, Env.AlikeOn.extend agree counted arguments m n⟩
  state := by
    rintro env e sub _ ⟨rfl, agree⟩
    cases e with
    | literal n => exact .literal
    | name x => exact .name (agree x (List.mem_singleton.mpr rfl)) fun _ => rfl
    | lambda parameters body => exact .lambda fun m n => .closure agree
    | call operator operands =>
      apply StatesFit.call
      · exact ⟨rfl, agree.mono fun x free => Expr.mem_freeNames_call.mpr (.inl free)⟩
      · apply List.forall₂_same.mpr
        intro operand member
        exact ⟨rfl, agree.mono fun x free => Expr.mem_freeNames_call.mpr (.inr ⟨operand, member, free⟩)⟩

/-- Environments that agree on the free names of an expression, whatever their frames: the same calls,
and the same error or values that are alike. -/
theorem evaluate_alike_of_freeNames (room : Nat) (limit : Int) (e : Expr) {first second : Env}
    (agree : Env.AlikeOn e.freeNames first second) (v w : World) :
    Matches Value.Alike (evaluate room limit first e v).1 (evaluate room limit second e w).1 ∧
      ∃ calls, (evaluate room limit first e v).2.calls = v.calls ++ calls ∧
        (evaluate room limit second e w).2.calls = w.calls ++ calls :=
  alike_simulation.evaluate_parallel room limit ⟨rfl, agree⟩ v w

/-- One closure keeps `x` and `rec` in two frames, the other in one and with a name that nothing reads;
the second environment has a frame more, with an `x` of its own. -/
theorem evaluate_alike_of_freeNames_padded :
    let recorder : Value := .primitive 0 "rec" Host.recorder
    let body : Expr := .call (.name "rec") [.name "x", .name "y"]
    let split : Env := [⟨1, [("x", .number (.int 1))]⟩, ⟨2, [("rec", recorder)]⟩]
    let merged : Env := [⟨3, [("rec", recorder), ("unread", .number (.int 0)), ("x", .number (.int 1))]⟩]
    let first : Env := [⟨4, [("f", .closure 5 ["y"] body split)]⟩]
    let second : Env := [⟨6, [("x", .number (.int 7))]⟩, ⟨7, [("f", .closure 8 ["y"] body merged)]⟩]
    let e : Expr := .call (.name "f") [.literal (.int 2)]
    Env.AlikeOn e.freeNames first second ∧
      Matches Value.Alike (evaluate 9 9 first e {}).1 (evaluate 9 9 second e {}).1 ∧
      (evaluate 9 9 first e {}).2.calls = [[.int 1, .int 2]] ∧
      (evaluate 9 9 second e {}).2.calls = [[.int 1, .int 2]] := by
  intro recorder body split merged first second e
  have kept : Env.AlikeOn (Expr.lambda ["y"] body).freeNames split merged :=
    List.forall_mem_cons.mpr ⟨.some .primitive, List.forall_mem_singleton.mpr (.some .number)⟩
  have agree : Env.AlikeOn e.freeNames first second :=
    List.forall_mem_singleton.mpr (.some (.closure kept))
  obtain ⟨outcomes, calls, one, two⟩ := evaluate_alike_of_freeNames 9 9 e agree {} {}
  have logged : (evaluate 9 9 first e {}).2.calls = [[.int 1, .int 2]] := rfl
  refine ⟨agree, outcomes, logged, ?_⟩
  rw [two, ← one, logged]

end LambdaCalc
