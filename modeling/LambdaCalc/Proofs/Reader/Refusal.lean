import LambdaCalc.Proofs.Grammar.Reading
import LambdaCalc.Proofs.Reader.Alike

namespace LambdaCalc.Reader

open Grammar

variable {room : Room} {r s : Reader} {t : Token} {tokens : List Token} {err : ReadError}

/-- The error says that the tokens are at their end, at the offset `stop`. -/
inductive RunsOut (stop : Nat) : ReadError → Prop where
  | incomplete : RunsOut stop ⟨.incomplete, some stop⟩
  | expected (char : Char) : RunsOut stop ⟨.expected (delimiterText char) none, some stop⟩

theorem blames_or_halts (failed : r.feed room t = .error err) : Blames t err ∨ Halts t r.state err := by
  have follows := @feed_follows room room t t r r (.refl r) (.refl t.lexeme)
  rw [failed] at follows
  cases follows with
  | blamed blames => exact .inl blames
  | halts halts => exact .inr halts
  | otherHalts halts => exact .inr halts

theorem reason_of_distinct {start : Nat} {names : List String} (clash : distinct start names = .error err) :
    ∃ name, firstRepeated names = some name ∧ err = ⟨.duplicateParameter name, some start⟩ := by
  unfold distinct at clash
  split at clash
  · rename_i name found
    cases clash
    exact ⟨name, found, rfl⟩
  · cases clash

theorem Blames.not_halts {state : State} (blames : Blames t err) : ¬ Halts t state err := by
  intro halts
  cases halts with
  | tooDeep | numeral => cases blames
  | repeated listed clash =>
    obtain ⟨name, -, rfl⟩ := reason_of_distinct clash
    cases blames

theorem run_eq_error (failed : run room r tokens = .error err) :
    ∃ before t after s, tokens = before ++ t :: after ∧ run room r before = .ok s ∧
      s.feed room t = .error err := by
  induction tokens generalizing r with
  | nil => cases failed
  | cons t rest ih =>
    rw [run_cons] at failed
    cases fed : r.feed room t with
    | error e =>
      rw [fed] at failed
      cases failed
      exact ⟨[], t, rest, r, rfl, rfl, fed⟩
    | ok next =>
      rw [fed] at failed
      obtain ⟨before, u, after, s, rfl, ran, refused⟩ := ih failed
      refine ⟨t :: before, u, after, s, rfl, ?_, refused⟩
      rw [run_cons, fed]
      exact ran

theorem closeEnd_eq_error {stop : Nat} {stack : List Context} {e : Expr}
    (failed : closeEnd stop stack e = .error err) : RunsOut stop err := by
  induction stack generalizing e with
  | nil => cases failed
  | cons context stack ih =>
    cases context with
    | body parameters => exact ih failed
    | group | operand =>
      cases failed
      exact .expected ')'

theorem starved_cases (room : Room) (stack : List Context) (stop : Nat) :
    ⟨starved room stack, some stop⟩ = (⟨.tooDeep, some stop⟩ : ReadError) ∨
      RunsOut stop ⟨starved room stack, some stop⟩ := by
  unfold starved
  split
  · exact .inl rfl
  · exact .inr .incomplete

theorem finish_eq_error {stop : Nat} (failed : r.finish room stop = .error err) :
    err = ⟨.tooDeep, some stop⟩ ∨
    (∃ start names, r.state = .afterParameter start names ∧ distinct start names = .error err) ∨
    RunsOut stop err := by
  obtain ⟨stack, state⟩ := r
  cases state with
  | complete e => exact .inr (.inr (closeEnd_eq_error failed))
  | expr =>
    cases failed
    exact (starved_cases room stack stop).imp_right .inr
  | firstOperand operator =>
    cases failed
    exact (starved_cases room (.operand operator [] :: stack) stop).imp_right .inr
  | afterParameter start names =>
    simp only [finish] at failed
    cases check : distinct start names with
    | error e =>
      rw [check] at failed
      cases failed
      exact .inr (.inl ⟨start, names, rfl, check⟩)
    | ok _ =>
      rw [check] at failed
      cases failed
      exact .inr (.inr (.expected ':'))
  | firstParameter | parameter =>
    cases failed
    exact .inr (.inr .incomplete)

/-- How a list of tokens is refused. -/
inductive Refuses (room : Room) (tokens : List Token) : ReadError → Prop where
  | tooDeep {t : Token} (member : t ∈ tokens) : Refuses room tokens ⟨.tooDeep, some t.pos⟩
  | tooDeepEnd : Refuses room tokens ⟨.tooDeep, some (endOf tokens)⟩
  | numeral {t : Token} {text : String} {e : Numeral.Error} (member : t ∈ tokens)
      (lexeme : t.lexeme = .number text) (refused : Numeral.read text = .error e) :
      Refuses room tokens ⟨.numeral e, some t.pos⟩
  | repeated {before after : List Token} {s : Reader} {start : Nat} {names : List String} {err : ReadError}
      (split : tokens = before ++ after) (ran : run room {} before = .ok s)
      (listed : s.state = .afterParameter start names) (clash : distinct start names = .error err) :
      Refuses room tokens err
  | blamed {before after : List Token} {t : Token} {s : Reader} {err : ReadError}
      (split : tokens = before ++ t :: after) (ran : run room {} before = .ok s)
      (refused : s.feed room t = .error err) (blames : Blames t err) : Refuses room tokens err
  | ended {s : Reader} {err : ReadError} (ran : run room {} tokens = .ok s)
      (refused : s.finish room (endOf tokens) = .error err) (out : RunsOut (endOf tokens) err) :
      Refuses room tokens err

theorem refuses_of_feed {before after : List Token} (split : tokens = before ++ t :: after)
    (ran : run room {} before = .ok s) (failed : s.feed room t = .error err) : Refuses room tokens err := by
  have member : t ∈ tokens := by
    rw [split]
    exact List.mem_append_right _ List.mem_cons_self
  rcases blames_or_halts failed with blames | halts
  · exact .blamed split ran failed blames
  · cases halts with
    | tooDeep => exact .tooDeep member
    | numeral lexeme refused => exact .numeral member lexeme refused
    | repeated listed clash => exact .repeated split ran listed clash

theorem refuses_of_ofTokens (failed : Expr.ofTokens room tokens = .error err) : Refuses room tokens err := by
  rw [ofTokens_eq_run] at failed
  cases ran : run room {} tokens with
  | error e =>
    rw [ran] at failed
    cases failed
    obtain ⟨before, t, after, s, split, upTo, refused⟩ := run_eq_error ran
    exact refuses_of_feed split upTo refused
  | ok s =>
    rw [ran] at failed
    rcases finish_eq_error failed with rfl | ⟨start, names, listed, clash⟩ | out
    · exact .tooDeepEnd
    · exact .repeated (List.append_nil tokens).symm ran listed clash
    · exact .ended ran failed out

theorem viable_of_run (ran : run room {} tokens = .ok s) : Viable (tokens.map Token.lexeme) := by
  have initial : Reached room {} [] := ⟨[], [], .nil, rfl, rfl⟩
  exact (run_reached initial tokens ran).viable

theorem exists_accepted (room : Room) {lexemes : List Lexeme} (sentence : Sentence lexemes) :
    ∃ wide others last, List.Forall₂ LexemeAlike lexemes (others.map Token.lexeme) ∧
      run wide {} others = .ok last ∧ ∃ e, last.finish wide (endOf others) = .ok e := by
  obtain ⟨n, others, e, like, derivation⟩ := sentence.exists_derives room
  let spelling : List Token := others.map fun lexeme => ⟨lexeme, 0⟩
  have spelled : spelling.map Token.lexeme = others := by simp [spelling, Function.comp_def]
  rw [← spelled] at like derivation
  have accepted := ofTokens_of_derives (derivation.withFrames n) (Nat.le_refl n)
  rw [ofTokens_eq_run] at accepted
  cases ran : run { room with frames := n } {} spelling with
  | error err =>
    rw [ran] at accepted
    cases accepted
  | ok last =>
    rw [ran] at accepted
    exact ⟨_, spelling, last, like, ran, e, accepted⟩

theorem hopeless_of_blames (ran : run room {} tokens = .ok s) (refused : s.feed room t = .error err)
    (blames : Blames t err) : Hopeless ((tokens ++ [t]).map Token.lexeme) := by
  intro rest sentence
  rw [List.map_append, List.append_assoc] at sentence
  obtain ⟨wide, others, last, like, accepted, -⟩ := exists_accepted room sentence
  obtain ⟨p, ahead, alike, goesOn, next⟩ := run_alike (.refl {}) ran accepted like
  cases ahead with
  | nil => cases next
  | cons u ahead =>
    obtain ⟨q, fed, -⟩ := run_cons_eq_ok.mp goesOn
    have follows := @feed_follows room wide t u s p alike (List.forall₂_cons.mp next).1
    rw [refused, fed] at follows
    cases follows with
    | halts halts => exact blames.not_halts halts

theorem not_sentence_of_ended (ran : run room {} tokens = .ok s) {stop : Nat}
    (refused : s.finish room stop = .error err) : ¬ Sentence (tokens.map Token.lexeme) := by
  intro sentence
  obtain ⟨wide, others, last, like, accepted, e, finished⟩ := exists_accepted room sentence
  rw [← List.append_nil (tokens.map Token.lexeme)] at like
  obtain ⟨p, ahead, alike, goesOn, next⟩ := run_alike (.refl {}) ran accepted like
  obtain rfl := List.map_eq_nil_iff.mp (List.forall₂_nil_left_iff.mp next)
  obtain rfl : p = last := Except.ok.inj goesOn
  obtain ⟨d, own⟩ := @finish_alike room wide s p alike stop _ _ finished
  rw [refused] at own
  cases own

theorem Blames.position (blames : Blames t err) : err.position = some t.pos := by
  cases blames <;> rfl

theorem RunsOut.position {stop : Nat} (out : RunsOut stop err) : err.position = some stop := by
  cases out <;> rfl

theorem RunsOut.reason {stop : Nat} (out : RunsOut stop err) :
    err.reason = .incomplete ∨ ∃ target, err.reason = .expected target none := by
  cases out with
  | incomplete => exact .inl rfl
  | expected char => exact .inr ⟨_, rfl⟩

theorem Blames.not_runsOut {stop : Nat} (blames : Blames t err) : ¬ RunsOut stop err := by
  intro out
  rcases out.reason with reason | ⟨target, reason⟩ <;> cases blames <;> cases reason

theorem ofTokens_of_read {source : String} (scanned : Token.scan source = .ok tokens)
    (failed : Expr.read room source = .error err) : Expr.ofTokens room tokens = .error err := by
  simp only [Expr.read, scanned, Except.bind] at failed
  split at failed
  · cases failed
  · cases result : Expr.ofTokens room tokens with
    | ok e =>
      rw [result] at failed
      cases failed
    | error e =>
      rw [result] at failed
      cases failed
      rfl

/-- Unless the tokens nest too deeply or a parameter is repeated, they are refused at the first token with
which no sentence begins, or at their end, and then a sentence goes on behind them. -/
theorem read_error_first_hopeless (room : Room) (source : String) (tokens : List Token) (err : ReadError)
    (scanned : Token.scan source = .ok tokens) (failed : Expr.read room source = .error err)
    (shallow : err.reason ≠ .tooDeep) (single : ∀ name, err.reason ≠ .duplicateParameter name) :
    ((∃ t ∈ tokens, Blames t err) ∨ RunsOut (endOf tokens) err) ∧
    (∀ before t after, tokens = before ++ t :: after → Blames t err →
      Viable (before.map Token.lexeme) ∧ Hopeless ((before ++ [t]).map Token.lexeme)) ∧
    (∀ stop, RunsOut stop err → ¬ Sentence (tokens.map Token.lexeme) ∧
      ∃ rest, rest ≠ [] ∧ (∀ lexeme ∈ rest, lexeme.Valid) ∧ Sentence (tokens.map Token.lexeme ++ rest)) := by
  have layout := Token.layout_of_scan scanned
  have refuses : Refuses room tokens err := refuses_of_ofTokens (ofTokens_of_read scanned failed)
  cases refuses with
  | tooDeep | tooDeepEnd => exact absurd rfl shallow
  | numeral member lexeme refused =>
    obtain ⟨n, read⟩ := Token.read_of_scan scanned member lexeme
    rw [read] at refused
    cases refused
  | repeated split ran listed clash =>
    obtain ⟨name, -, rfl⟩ := reason_of_distinct clash
    exact absurd rfl (single name)
  | @blamed before after t s err split ran refused blames =>
    refine ⟨.inl ⟨t, by rw [split]; simp, blames⟩, ?_, fun stop out => absurd out blames.not_runsOut⟩
    intro front u back again blamed
    -- The offset in the error tells which token it names.
    have same : t.pos = u.pos := Option.some.inj (blames.position.symm.trans blamed.position)
    subst split
    obtain rfl := layout.front_eq again same
    obtain ⟨rfl, rfl⟩ := List.cons.inj (List.append_cancel_left again)
    exact ⟨viable_of_run ran, hopeless_of_blames ran refused blames⟩
  | @ended s err ran refused out =>
    refine ⟨.inr out, fun front u back again blamed => absurd out blamed.not_runsOut, fun stop _ => ?_⟩
    have other := not_sentence_of_ended ran refused
    obtain ⟨rest, valid, sentence⟩ := viable_of_run ran
    refine ⟨other, rest, ?_, valid, sentence⟩
    rintro rfl
    rw [List.append_nil] at sentence
    exact other sentence

/-- The parameters are not compared before their list ends, so the numeral among them is what is refused. -/
theorem read_error_first_hopeless_parameters :
    let room := Stack.usual.reading
    Expr.read room "f(lambda x, x, 3" = .error ⟨.notParameter "3", some 15⟩ ∧
      Viable [.symbol "f", .delimiter '(', .symbol "lambda", .symbol "x", .delimiter ',', .symbol "x", .delimiter ','] ∧
      Hopeless [.symbol "f", .delimiter '(', .symbol "lambda", .symbol "x", .delimiter ',', .symbol "x",
        .delimiter ',', .number "3"] := by
  intro room
  have scanned : Token.scan "f(lambda x, x, 3" = .ok
      [⟨.symbol "f", 0⟩, ⟨.delimiter '(', 1⟩, ⟨.symbol "lambda", 2⟩, ⟨.symbol "x", 9⟩, ⟨.delimiter ',', 10⟩,
       ⟨.symbol "x", 12⟩, ⟨.delimiter ',', 13⟩, ⟨.number "3", 15⟩] := rfl
  have failed : Expr.read room "f(lambda x, x, 3" = .error ⟨.notParameter "3", some 15⟩ := rfl
  obtain ⟨-, named, -⟩ :=
    read_error_first_hopeless room _ _ _ scanned failed (by decide) (fun name same => by cases same)
  exact ⟨failed, named [_, _, _, _, _, _, _] ⟨.number "3", 15⟩ [] rfl .notParameter⟩

end LambdaCalc.Reader
