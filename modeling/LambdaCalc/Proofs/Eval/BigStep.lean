import LambdaCalc.Eval
import LambdaCalc.Proofs.Environment

namespace LambdaCalc

/-- What a derivation concludes: a value or an error, the calls of host functions in their order, and
the first serial number that is left. -/
structure Conclusion (α : Type) where
  outcome : Except EvalError α
  calls : List (List Number)
  serial : Nat

namespace Conclusion

variable {α β : Type}

def value (a : α) (serial : Nat) : Conclusion α := ⟨.ok a, [], serial⟩

def fail (e : EvalError) (serial : Nat) : Conclusion α := ⟨.error e, [], serial⟩

def after (c : Conclusion α) (calls : List (List Number)) : Conclusion α :=
  { c with calls := calls ++ c.calls }

end Conclusion

mutual

/-- `Evaluates height env serial e c`: the expression comes to the conclusion `c` in `env`, when
`serial` is the first serial number that nothing has yet. -/
inductive Evaluates : Nat → Env → Nat → Expr → Conclusion Value → Prop where
  | literal {env : Env} {serial : Nat} {n : Number} :
      Evaluates 1 env serial (.literal n) (.value (.number n) serial)
  | name {env : Env} {serial : Nat} {identifier : String} {value : Value}
      (bound : Env.Binds env identifier value) :
      Evaluates 1 env serial (.name identifier) (.value value serial)
  | unbound {env : Env} {serial : Nat} {identifier : String}
      (absent : ∀ frame ∈ env, frame.get? identifier = none) :
      Evaluates 1 env serial (.name identifier) (.fail (.unbound identifier) serial)
  | lambda {env : Env} {serial : Nat} {parameters : List String} {body : Expr} :
      Evaluates 1 env serial (.lambda parameters body)
        (.value (.closure serial parameters body env) (serial + 1))
  | operatorFails {env : Env} {serial h next : Nat} {operator : Expr} {operands : List Expr}
      {e : EvalError} {calls : List (List Number)}
      (first : Evaluates h env serial operator ⟨.error e, calls, next⟩) :
      Evaluates (h + 1) env serial (.call operator operands) ⟨.error e, calls, next⟩
  | operandFails {env : Env} {serial h k middle next : Nat} {operator : Expr} {operands : List Expr}
      {fn : Value} {e : EvalError} {calls more : List (List Number)}
      (first : Evaluates h env serial operator ⟨.ok fn, calls, middle⟩)
      (second : EvaluatesAll k env middle operands ⟨.error e, more, next⟩) :
      Evaluates (max h k + 1) env serial (.call operator operands) ⟨.error e, calls ++ more, next⟩
  | call {env : Env} {serial h k l middle last : Nat} {operator : Expr} {operands : List Expr}
      {fn : Value} {args : List Value} {calls more : List (List Number)} {c : Conclusion Value}
      (first : Evaluates h env serial operator ⟨.ok fn, calls, middle⟩)
      (second : EvaluatesAll k env middle operands ⟨.ok args, more, last⟩)
      (third : Applies l last fn args c) :
      Evaluates (max (max h k) l + 1) env serial (.call operator operands) (c.after (calls ++ more))

/-- The operands from left to right, up to the first that fails. -/
inductive EvaluatesAll : Nat → Env → Nat → List Expr → Conclusion (List Value) → Prop where
  | nil {env : Env} {serial : Nat} : EvaluatesAll 0 env serial [] (.value [] serial)
  | headFails {env : Env} {serial h next : Nat} {operand : Expr} {rest : List Expr} {e : EvalError}
      {calls : List (List Number)} (first : Evaluates h env serial operand ⟨.error e, calls, next⟩) :
      EvaluatesAll h env serial (operand :: rest) ⟨.error e, calls, next⟩
  | tailFails {env : Env} {serial h k middle next : Nat} {operand : Expr} {rest : List Expr}
      {value : Value} {e : EvalError} {calls more : List (List Number)}
      (first : Evaluates h env serial operand ⟨.ok value, calls, middle⟩)
      (second : EvaluatesAll k env middle rest ⟨.error e, more, next⟩) :
      EvaluatesAll (max h k) env serial (operand :: rest) ⟨.error e, calls ++ more, next⟩
  | cons {env : Env} {serial h k middle next : Nat} {operand : Expr} {rest : List Expr}
      {value : Value} {values : List Value} {calls more : List (List Number)}
      (first : Evaluates h env serial operand ⟨.ok value, calls, middle⟩)
      (second : EvaluatesAll k env middle rest ⟨.ok values, more, next⟩) :
      EvaluatesAll (max h k) env serial (operand :: rest) ⟨.ok (value :: values), calls ++ more, next⟩

/-- Application. The body of a closure is evaluated in one new frame inside the environment that the
closure keeps; a primitive takes no level. -/
inductive Applies : Nat → Nat → Value → List Value → Conclusion Value → Prop where
  | arity {serial identity : Nat} {parameters : List String} {body : Expr} {env : Env}
      {args : List Value} (mismatch : args.length ≠ parameters.length) :
      Applies 0 serial (.closure identity parameters body env) args
        (.fail (.arity parameters.length args.length) serial)
  | closure {serial identity h : Nat} {parameters : List String} {body : Expr} {env : Env}
      {args : List Value} {c : Conclusion Value} (counted : args.length = parameters.length)
      (inside : Evaluates h (env.extend serial parameters args) (serial + 1) body c) :
      Applies h serial (.closure identity parameters body env) args c
  | rejected {serial identity : Nat} {name : String} {host : Host} {args : List Value} {e : EvalError}
      (notNumbers : numbersOf name args = .error e) :
      Applies 0 serial (.primitive identity name host) args (.fail e serial)
  | primitive {serial identity : Nat} {name : String} {host : Host} {args : List Value}
      {numbers : List Number} (allNumbers : numbersOf name args = .ok numbers) :
      Applies 0 serial (.primitive identity name host) args
        ⟨acceptAnswer name (host numbers).result, (host numbers).entries, serial⟩
  | number {serial : Nat} {n : Number} {args : List Value} :
      Applies 0 serial (.number n) args (.fail (notCallable (.number n)) serial)

end

end LambdaCalc
