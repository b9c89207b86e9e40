import LambdaCalc.Cursor

namespace LambdaCalc.Cursor

section

variable {α : Type} (c : Cursor α)

theorem passed_eq_take : c.passed.reverse = c.source.take c.position := by
  rw [source, position, ← List.length_reverse, List.take_left]

theorem ahead_eq_drop : c.ahead = c.source.drop c.position := by
  rw [source, position, ← List.length_reverse, List.drop_left]

theorem position_le_length : c.position ≤ c.source.length := by
  rw [source, position, List.length_append, List.length_reverse]
  omega

theorem peek_eq_getElem? : c.peek = c.source[c.position]? := by
  rw [peek, ahead_eq_drop, List.head?_drop]

theorem atEnd_iff : c.atEnd = true ↔ c.position = c.source.length := by
  have within := c.position_le_length
  rw [atEnd, ahead_eq_drop, List.isEmpty_iff, List.drop_eq_nil_iff]
  omega

theorem advance_fst : c.advance.1 = c.source[c.position]? := by
  rw [← peek_eq_getElem?, advance, peek]
  cases c.ahead <;> rfl

theorem source_advance : c.advance.2.source = c.source := by
  rw [advance]
  split
  · rfl
  · rename_i a rest next
    rw [source, source, next, List.reverse_cons, List.append_assoc, List.singleton_append]

theorem passed_advance : c.advance.2.passed.reverse = c.passed.reverse ++ c.peek.toList := by
  rw [advance, peek]
  cases c.ahead with
  | nil => exact (List.append_nil _).symm
  | cons a rest => exact List.reverse_cons

theorem position_advance : c.advance.2.position = min (c.position + 1) c.source.length := by
  have within := c.position_le_length
  have length := congrArg List.length c.passed_advance
  rw [List.length_append, List.length_reverse, List.length_reverse, peek_eq_getElem?] at length
  change c.advance.2.position = c.position + _ at length
  rw [length]
  cases next : c.source[c.position]? with
  | none =>
    have ended := List.getElem?_eq_none_iff.mp next
    rw [Option.toList_none, List.length_nil]
    omega
  | some a =>
    obtain ⟨inside, -⟩ := List.getElem?_eq_some_iff.mp next
    rw [Option.toList_some, List.length_singleton]
    omega

theorem ahead_advance : c.advance.2.ahead = c.ahead.tail := by
  rw [advance]
  split
  · rename_i ended
    rw [ended, List.tail_nil]
  · rename_i next
    rw [next, List.tail_cons]

variable {σ ε : Type}

theorem walk_eq_foldlM (step : σ → α → Except ε σ) (s : σ) :
    c.walk step s = (c.ahead.foldlM step s).map fun t => (t, ⟨c.source.reverse, []⟩) := by
  suffices walked : ∀ ahead, c.ahead = ahead →
      walk.go step ahead s c = (ahead.foldlM step s).map fun t => (t, ⟨c.source.reverse, []⟩) from walked _ rfl
  intro ahead
  induction ahead generalizing s c with
  | nil =>
    intro ended
    have whole : (⟨c.source.reverse, []⟩ : Cursor α) = c := by
      rw [source, ended, List.append_nil, List.reverse_reverse, ← ended]
    rw [walk.go, whole]
    rfl
  | cons a rest ih =>
    intro next
    have later : c.advance.2.ahead = rest := by rw [ahead_advance, next, List.tail_cons]
    have moved : c.advance = (some a, c.advance.2) := by
      rw [advance, next]
    rw [walk.go, moved, List.foldlM_cons]
    change (step s a).bind _ = _
    cases step s a with
    | error e => rfl
    | ok t =>
      have after := ih c.advance.2 t later
      rw [source_advance] at after
      exact after

theorem walk_ofList (step : σ → α → Except ε σ) (s : σ) (source : List α) :
    (ofList source).walk step s = (source.foldlM step s).map fun t => (t, ⟨source.reverse, []⟩) :=
  walk_eq_foldlM (ofList source) step s

end

variable (c : Cursor Item)

theorem endOffset_congr {c d : Cursor Item} (same : c.source = d.source) : c.endOffset = d.endOffset := by
  rw [endOffset, endOffset, endOffsetBy, endOffsetBy, size, size, same]

theorem expect_snd (target : Item) : (c.expect target).2 = c.advance.2 := by
  rw [expect]
  split
  · rename_i moved
    rw [moved]
  · rename_i moved
    rw [moved]
    split <;> rfl

def Item.offset (position : Nat) : Item → Nat
  | text _ => position
  | token t => t.pos

def refusal (source : List Item) (position : Nat) (target : Item) : ReadError :=
  match source[position]? with
  | none => ⟨.expected target.shown none, some (ofList source).endOffset⟩
  | some item => ⟨.expected target.shown (some item.shown), some (item.offset position)⟩

variable {c} {target item : Item}

theorem expect_of_same (next : c.source[c.position]? = some item) (same : item.same target = true) :
    (c.expect target).1 = .ok item := by
  have taken := c.advance_fst
  rw [next] at taken
  rw [expect]
  split
  · rename_i moved
    rw [moved] at taken
    cases taken
  · rename_i moved
    rw [moved] at taken
    cases taken
    rw [if_pos same]

theorem expect_of_other
    (differs : ∀ item, c.source[c.position]? = some item → item.same target = false) :
    (c.expect target).1 = .error (refusal c.source c.position target) := by
  have taken := c.advance_fst
  rw [refusal, ← taken, expect]
  split
  · rename_i next moved
    -- The offset is that of the cursor after the move, over the same source.
    have offset : next.endOffset = (ofList c.source).endOffset := by
      apply endOffset_congr
      have kept := c.source_advance
      rw [moved] at kept
      exact kept
    rw [moved, offset]
  · rename_i actual next moved
    rw [moved] at taken
    have other := differs actual taken.symm
    rw [moved, if_neg (Bool.eq_false_iff.mp other)]
    cases actual <;> rfl

theorem exists_expect_eq_error_iff :
    (∃ e, (c.expect target).1 = .error e) ↔
      ∀ item, c.source[c.position]? = some item → item.same target = false := by
  constructor
  · rintro ⟨e, refused⟩ item next
    cases same : item.same target with
    | false => rfl
    | true =>
      rw [expect_of_same next same] at refused
      cases refused
  · intro differs
    exact ⟨_, expect_of_other differs⟩

theorem next_of_expect (accepted : (c.expect target).1 = .ok item) : c.source[c.position]? = some item := by
  rw [← advance_fst]
  rw [expect] at accepted
  split at accepted
  · cases accepted
  · rename_i actual next moved
    rw [moved]
    split at accepted
    · exact congrArg some (Except.ok.inj accepted)
    · cases accepted

inductive Call where
  | peek
  | advance
  | expect (target : Item)
  | atEnd
  | endOffset

def Call.moves : Call → Bool
  | advance | expect _ => true
  | peek | atEnd | endOffset => false

def after (c : Cursor Item) : Call → Cursor Item
  | .peek | .atEnd | .endOffset => c
  | .advance => c.advance.2
  | .expect target => (c.expect target).2

def run (c : Cursor Item) (calls : List Call) : Cursor Item := calls.foldl after c

/-- What a call takes is what it answers, and an element that is refused is taken as well. -/
def taken (c : Cursor Item) : Call → Option Item
  | .advance => c.advance.1
  | .expect target =>
    match (c.expect target).1 with
    | .ok item => some item
    | .error _ => c.peek
  | .peek | .atEnd | .endOffset => none

def consumed (c : Cursor Item) : List Call → List Item
  | [] => []
  | call :: calls => (c.taken call).toList ++ (c.after call).consumed calls

theorem after_of_moves {call : Call} (moves : call.moves = true) : c.after call = c.advance.2 := by
  cases call with
  | advance => rfl
  | expect target => exact c.expect_snd target
  | peek | atEnd | endOffset => contradiction

theorem after_of_not_moves {call : Call} (stays : call.moves = false) : c.after call = c := by
  cases call with
  | advance | expect => contradiction
  | peek | atEnd | endOffset => rfl

theorem taken_expect (c : Cursor Item) (target : Item) : c.taken (.expect target) = c.peek := by
  rw [taken]
  split
  · rename_i item accepted
    rw [peek_eq_getElem?]
    exact (next_of_expect accepted).symm
  · rfl

theorem passed_after (c : Cursor Item) (call : Call) :
    (c.after call).passed.reverse = c.passed.reverse ++ (c.taken call).toList := by
  cases call with
  | advance => rw [after, passed_advance, taken, advance_fst, peek_eq_getElem?]
  | expect target => rw [after, expect_snd, passed_advance, taken_expect]
  | peek | atEnd | endOffset => exact (List.append_nil _).symm

theorem source_after (c : Cursor Item) (call : Call) : (c.after call).source = c.source := by
  cases moves : call.moves with
  | true => rw [after_of_moves moves, source_advance]
  | false => rw [after_of_not_moves moves]

theorem source_run (c : Cursor Item) (calls : List Call) : (c.run calls).source = c.source := by
  induction calls generalizing c with
  | nil => rfl
  | cons call calls ih => exact (ih (c.after call)).trans (c.source_after call)

theorem passed_run (c : Cursor Item) (calls : List Call) :
    (c.run calls).passed.reverse = c.passed.reverse ++ c.consumed calls := by
  induction calls generalizing c with
  | nil => exact (List.append_nil _).symm
  | cons call calls ih =>
    rw [consumed, ← List.append_assoc, ← passed_after]
    exact ih (c.after call)

theorem position_le_run (c : Cursor Item) (calls : List Call) : c.position ≤ (c.run calls).position := by
  have length := congrArg List.length (c.passed_run calls)
  rw [List.length_append, List.length_reverse, List.length_reverse] at length
  change (c.run calls).position = c.position + _ at length
  omega

/-- How a cursor over a source answers at its position, and where the calls that move it lead. -/
structure Stands (source : List Item) (c : Cursor Item) : Prop where
  within : c.position ≤ source.length
  peek : c.peek = source[c.position]?
  atEnd : c.atEnd = true ↔ c.position = source.length
  endOffset : c.endOffset = (ofList source).endOffset
  unmoved : ∀ call : Call, call.moves = false → c.after call = c
  moved : ∀ call : Call, call.moves = true → (c.after call).position = min (c.position + 1) source.length
  advance : c.advance.1 = source[c.position]?
  accepts : ∀ target item, source[c.position]? = some item → item.same target = true →
    (c.expect target).1 = .ok item
  refuses : ∀ target, (∀ item, source[c.position]? = some item → item.same target = false) →
    (c.expect target).1 = .error (refusal source c.position target)
  raises : ∀ target, (∃ e, (c.expect target).1 = .error e) ↔
    ∀ item, source[c.position]? = some item → item.same target = false

theorem stands (c : Cursor Item) : Stands c.source c where
  within := c.position_le_length
  peek := c.peek_eq_getElem?
  atEnd := c.atEnd_iff
  endOffset := endOffset_congr rfl
  unmoved _ := after_of_not_moves
  moved call moves := by rw [after_of_moves moves, position_advance]
  advance := c.advance_fst
  accepts _ _ := expect_of_same
  refuses _ := expect_of_other
  raises _ := exists_expect_eq_error_iff

/-- After any calls a cursor stands at a position of its source and answers with the element there, the elements
that were taken are those before the position, and no further calls lead back. -/
theorem run_replays (source : List Item) (calls more : List Call) :
    Stands source ((ofList source).run calls) ∧
    (ofList source).consumed calls = source.take ((ofList source).run calls).position ∧
    ((ofList source).run calls).position ≤ ((ofList source).run (calls ++ more)).position := by
  have whole : ((ofList source).run calls).source = source := source_run (ofList source) calls
  refine ⟨?_, ?_, ?_⟩
  · have answers := stands ((ofList source).run calls)
    rw [whole] at answers
    exact answers
  · have taken := passed_run (ofList source) calls
    rw [passed_eq_take, whole] at taken
    exact taken.symm
  · have joined : (ofList source).run (calls ++ more) = ((ofList source).run calls).run more := List.foldl_append
    rw [joined]
    exact position_le_run _ more

-- A refused element is passed, and the error has its offset.
example :
    let c := ofText "ab"
    (c.expect (.text "x")).1 = .error ⟨.expected "x" (some "a"), some 0⟩ ∧
      c.consumed [.expect (.text "x"), .peek, .advance, .advance] = [.text "a", .text "b"] := ⟨rfl, rfl⟩

end LambdaCalc.Cursor
