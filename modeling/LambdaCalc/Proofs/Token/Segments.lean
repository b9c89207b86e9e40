import LambdaCalc.Proofs.Token.Layout

namespace LambdaCalc

open Scanner Token

def Text.slice (cs : List Char) (start stop : Nat) : List Char := (cs.take stop).drop start

/-- `Segments cs start stop tokens`: the tokens are cut out of the text between the two offsets. -/
structure Segments (cs : List Char) (start stop : Nat) (tokens : List Token) : Prop where
  within : stop ≤ cs.length
  inside : ∀ t ∈ tokens, start ≤ t.pos ∧ t.stop ≤ stop
  ordered : tokens.Pairwise fun t u => t.stop ≤ u.pos
  spelled : ∀ t ∈ tokens, Text.slice cs t.pos t.stop = t.lexeme.text.toList
  valid : ∀ t ∈ tokens, t.lexeme.Valid
  /-- What follows a token could not be part of it. -/
  longest : ∀ t ∈ tokens, t.lexeme.StopsAt (cs.drop t.stop)
  blank : ∀ i c, start ≤ i → i < stop → cs[i]? = some c → (∀ t ∈ tokens, i < t.pos ∨ t.stop ≤ i) →
    Text.isBlank c = true

theorem Text.slice_append_drop {start stop : Nat} (cs : List Char) (le : start ≤ stop) :
    Text.slice cs start stop ++ cs.drop stop = cs.drop start := by
  have gap : start + (stop - start) = stop := by omega
  calc Text.slice cs start stop ++ cs.drop stop
      = (cs.drop start).take (stop - start) ++ (cs.drop start).drop (stop - start) := by
        rw [Text.slice, List.drop_take, List.drop_drop, gap]
    _ = cs.drop start := List.take_append_drop _ _

theorem Text.slice_of_drop {start : Nat} {cs word rest : List Char} (split : cs.drop start = word ++ rest) :
    Text.slice cs start (start + word.length) = word := by
  have width : start + word.length - start = word.length := by omega
  rw [Text.slice, List.drop_take, split, width, List.take_left]

namespace Segments

variable {cs : List Char} {start stop : Nat} {tokens : List Token} {t : Token}

theorem nil (within : stop ≤ cs.length) : Segments cs stop stop [] where
  within := within
  inside := by simp
  ordered := List.Pairwise.nil
  spelled := by simp
  valid := by simp
  longest := by simp
  blank := by
    intro i c low high
    omega

theorem skip {c : Char} (first : cs[start]? = some c) (isBlank : Text.isBlank c = true)
    (later : Segments cs (start + 1) stop tokens) : Segments cs start stop tokens where
  within := later.within
  inside := by
    intro t member
    have bounds := later.inside t member
    omega
  ordered := later.ordered
  spelled := later.spelled
  valid := later.valid
  longest := later.longest
  blank := by
    intro i d low high here outside
    by_cases same : i = start
    · subst same
      rw [first, Option.some.injEq] at here
      rw [← here]
      exact isBlank
    · have after : start + 1 ≤ i := by omega
      exact later.blank i d after high here outside

theorem cons (spells : Text.slice cs t.pos t.stop = t.lexeme.text.toList) (isValid : t.lexeme.Valid)
    (ends : t.lexeme.StopsAt (cs.drop t.stop)) (le : t.stop ≤ stop) (later : Segments cs t.stop stop tokens) :
    Segments cs t.pos stop (t :: tokens) where
  within := later.within
  inside := by
    rw [List.forall_mem_cons]
    refine ⟨⟨Nat.le_refl _, le⟩, fun u member => ?_⟩
    have bounds := later.inside u member
    have width : t.stop = t.pos + t.lexeme.width := rfl
    omega
  ordered := List.pairwise_cons.mpr ⟨fun u member => (later.inside u member).1, later.ordered⟩
  spelled := List.forall_mem_cons.mpr ⟨spells, later.spelled⟩
  valid := List.forall_mem_cons.mpr ⟨isValid, later.valid⟩
  longest := List.forall_mem_cons.mpr ⟨ends, later.longest⟩
  blank := by
    intro i c low high here outside
    obtain ⟨first, others⟩ := List.forall_mem_cons.mp outside
    have after : t.stop ≤ i := by omega
    exact later.blank i c after high here others

theorem tail (segments : Segments cs start stop (t :: tokens)) : Segments cs t.stop stop tokens where
  within := segments.within
  inside := by
    intro u member
    have apart := List.rel_of_pairwise_cons segments.ordered member
    exact ⟨apart, (segments.inside u (List.mem_cons_of_mem t member)).2⟩
  ordered := segments.ordered.of_cons
  spelled := fun u member => segments.spelled u (List.mem_cons_of_mem t member)
  valid := fun u member => segments.valid u (List.mem_cons_of_mem t member)
  longest := fun u member => segments.longest u (List.mem_cons_of_mem t member)
  blank := by
    intro i c low high here outside
    have bounds := segments.inside t List.mem_cons_self
    have width : t.stop = t.pos + t.lexeme.width := rfl
    have after : start ≤ i := by omega
    exact segments.blank i c after high here (List.forall_mem_cons.mpr ⟨.inr low, outside⟩)

theorem advance (segments : Segments cs start stop tokens) (before : start < stop)
    (none : ∀ t ∈ tokens, start ≠ t.pos) :
    ∃ c, cs[start]? = some c ∧ Text.isBlank c = true ∧ Segments cs (start + 1) stop tokens := by
  have bound : start < cs.length := Nat.lt_of_lt_of_le before segments.within
  have begins : ∀ t ∈ tokens, start + 1 ≤ t.pos := by
    intro t member
    have bounds := segments.inside t member
    have other := none t member
    omega
  have here : cs[start]? = some cs[start] := List.getElem?_eq_getElem bound
  refine ⟨cs[start], here, segments.blank start _ (Nat.le_refl _) before here ?_, ?_⟩
  · exact fun t member => .inl (begins t member)
  · exact { segments with
      inside := fun t member => ⟨begins t member, (segments.inside t member).2⟩
      blank := fun i c low => segments.blank i c (Nat.le_of_succ_le low) }

theorem of_layout {text rest : List Char} (layout : Layout start text tokens stop rest)
    (here : cs.drop start = text) (within : start ≤ cs.length) : Segments cs start stop tokens := by
  induction layout with
  | done => exact nil within
  | @blank pos stop c text rest tokens isBlank later ih =>
    have first : cs[pos]? = some c := by rw [← List.head?_drop, here, List.head?_cons]
    have next : cs.drop (pos + 1) = text := by rw [← List.tail_drop, here, List.tail_cons]
    have bound : pos < cs.length := (List.getElem?_eq_some_iff.mp first).1
    exact skip first isBlank (ih next bound)
  | @token t stop text rest tokens valid ends later ih =>
    have width : t.lexeme.text.toList.length = t.lexeme.width := t.lexeme.length_text
    have next : cs.drop t.stop = text := by
      rw [Token.stop, ← List.drop_drop, here, ← width, List.drop_left]
    have bound : t.stop ≤ cs.length := by
      have length := congrArg List.length here
      rw [List.length_drop, List.length_append, width] at length
      rw [Token.stop]
      omega
    have spells : Text.slice cs t.pos t.stop = t.lexeme.text.toList := by
      rw [Token.stop, ← width]
      exact Text.slice_of_drop here
    exact cons spells valid (next ▸ ends) later.le (ih next bound)

theorem layout (segments : Segments cs start stop tokens) (le : start ≤ stop) :
    Layout start (cs.drop start) tokens stop (cs.drop stop) := by
  -- A step is a blank or a token, so the induction is on how much of the text is left.
  induction left : stop - start using Nat.strongRecOn generalizing start tokens with
  | ind size ih =>
    have onward : start < stop → (∀ t ∈ tokens, start ≠ t.pos) →
        Layout start (cs.drop start) tokens stop (cs.drop stop) := by
      intro before none
      obtain ⟨c, here, isBlank, later⟩ := segments.advance before none
      obtain ⟨bound, value⟩ := List.getElem?_eq_some_iff.mp here
      rw [List.drop_eq_getElem_cons bound, value]
      exact .blank isBlank (ih _ (by omega) later before rfl)
    cases tokens with
    | nil =>
      by_cases before : start < stop
      · exact onward before (by simp)
      · have same : start = stop := by omega
        rw [same]
        exact .done
    | cons t tokens =>
      have bounds := segments.inside t List.mem_cons_self
      have valid := segments.valid t List.mem_cons_self
      have width : t.stop = t.pos + t.lexeme.width := rfl
      have positive := valid.width_pos
      by_cases first : start = t.pos
      · have spells := segments.spelled t List.mem_cons_self
        have split : t.lexeme.text.toList ++ cs.drop t.stop = cs.drop t.pos := by
          rw [← spells]
          exact Text.slice_append_drop cs (by omega)
        rw [first, ← split]
        exact .token valid (segments.longest t List.mem_cons_self) (ih _ (by omega) segments.tail bounds.2 rfl)
      · refine onward (by omega) (List.forall_mem_cons.mpr ⟨first, fun u member => ?_⟩)
        have apart := List.rel_of_pairwise_cons segments.ordered member
        omega

end Segments

theorem Scanner.run_layout {pos stop : Nat} {cs rest : List Char} {tokens : List Token}
    (layout : Layout pos cs tokens stop rest) (done : List Token) :
    (run ⟨pos, done, .none⟩ cs).bind finish =
      (run ⟨stop, tokens.reverse ++ done, .none⟩ rest).bind finish := by
  induction layout generalizing done with
  | done => rfl
  | blank blank later ih => rw [run_blank blank, ih]
  | token valid ends later ih =>
    rw [run_lexeme valid ends, ih, List.reverse_cons, List.append_assoc, List.singleton_append]

theorem Stops.of_append {p : Char → Bool} {front rest : List Char} (stops : Stops p (front ++ rest)) :
    Stops p front := by
  intro c first
  apply stops
  rw [List.head?_append, Option.mem_def.mp first]
  rfl

theorem Lexeme.StopsAt.of_append {lexeme : Lexeme} {front rest : List Char}
    (ends : lexeme.StopsAt (front ++ rest)) : lexeme.StopsAt front := by
  cases lexeme with
  | number => exact Stops.of_append ends
  | symbol => exact Stops.of_append ends
  | delimiter => trivial

theorem Layout.cut {pos stop : Nat} {cs front rest : List Char} {tokens : List Token}
    (layout : Layout pos cs tokens stop rest) (split : cs = front ++ rest) : Layout pos front tokens stop [] := by
  induction layout generalizing front with
  | done =>
    rw [List.append_left_eq_self.mp split.symm]
    exact .done
  | @blank pos stop c cs rest tokens blank later ih =>
    obtain ⟨behind, whole, -⟩ := later.split
    obtain rfl : c :: behind = front := by
      rw [whole, ← List.cons_append] at split
      exact List.append_cancel_right split
    exact .blank blank (ih whole)
  | @token t stop cs rest tokens valid ends later ih =>
    obtain ⟨behind, whole, -⟩ := later.split
    obtain rfl : t.lexeme.text.toList ++ behind = front := by
      rw [whole, ← List.append_assoc] at split
      exact List.append_cancel_right split
    rw [whole] at ends
    exact .token valid ends.of_append (ih whole)

namespace Token

variable {source : String} {tokens : List Token} {err : ReadError}

theorem scan_of_layout {stop : Nat} (layout : Layout 0 source.toList tokens stop []) :
    scan source = .ok tokens := by
  rw [scan_eq_run]
  rw [run_layout layout, List.append_nil]
  simp only [run_nil, Except.bind, finish, flush, Except.map, List.reverse_reverse]

theorem scan_eq_ok_iff :
    scan source = .ok tokens ↔ Segments source.toList 0 source.length tokens := by
  constructor
  · intro scanned
    exact .of_layout (layout_of_scan scanned) rfl (Nat.zero_le _)
  · intro segments
    have layout := segments.layout (Nat.zero_le _)
    rw [← String.length_toList, List.drop_length] at layout
    exact scan_of_layout layout

theorem scan_eq_error_iff :
    scan source = .error err ↔ ∃ before pos, Segments source.toList 0 pos before ∧
      Offends pos (source.toList.drop pos) err := by
  constructor
  · intro refused
    obtain ⟨before, pos, rest, layout, offends⟩ := offends_of_scan refused
    obtain ⟨front, whole, length⟩ := layout.split
    have behind : source.toList.drop pos = rest := by
      rw [whole, ← length, Nat.zero_add, List.drop_left]
    exact ⟨before, pos, .of_layout layout rfl (Nat.zero_le _), behind ▸ offends⟩
  · rintro ⟨before, pos, segments, offends⟩
    have layout := segments.layout (Nat.zero_le _)
    rw [scan_eq_run]
    change (run ⟨0, [], .none⟩ source.toList).bind finish = .error err
    rw [List.drop_zero] at layout
    rw [run_layout layout, run_offends offends]

theorem scan_take {pos : Nat} (segments : Segments source.toList 0 pos tokens) :
    scan (String.ofList (source.toList.take pos)) = .ok tokens := by
  have layout := segments.layout (Nat.zero_le _)
  have part : Layout 0 (source.toList.take pos) tokens pos [] := by
    apply layout.cut
    rw [List.drop_zero, List.take_append_drop]
  apply scan_of_layout
  rwa [String.toList_ofList]

/-- Scanning gives the tokens that are cut out of the whole text, if there are any such tokens, and there is
one list of them at most. It refuses the text exactly where, behind the tokens cut out of the part before,
there is a character that starts no token or a run of numeral characters that is no numeral. That part alone
is scanned to the same tokens. -/
theorem scan_segments (source : String) :
    (∀ tokens, scan source = .ok tokens ↔ Segments source.toList 0 source.length tokens) ∧
    (∀ tokens others, Segments source.toList 0 source.length tokens →
      Segments source.toList 0 source.length others → tokens = others) ∧
    ∀ err, scan source = .error err ↔ ∃ before pos, err.position = some pos ∧
      scan (String.ofList (source.toList.take pos)) = .ok before ∧
      Segments source.toList 0 pos before ∧ Offends pos (source.toList.drop pos) err := by
  refine ⟨fun tokens => scan_eq_ok_iff, ?_, ?_⟩
  · intro tokens others one other
    have scanned := scan_eq_ok_iff.mpr one
    rw [scan_eq_ok_iff.mpr other] at scanned
    cases scanned
    rfl
  · intro err
    rw [scan_eq_error_iff]
    constructor
    · rintro ⟨before, pos, segments, offends⟩
      exact ⟨before, pos, offends.position, scan_take segments, segments, offends⟩
    · rintro ⟨before, pos, -, -, segments, offends⟩
      exact ⟨before, pos, segments, offends⟩

/-- A digit goes on with a symbol but a letter does not go on with a numeral, a sign only starts one, and of
two signs the run is refused where it starts. -/
theorem scan_segments_mixed :
    let tokens : List Token := [⟨.symbol "x1", 0⟩, ⟨.number "-1", 2⟩, ⟨.symbol "y", 4⟩]
    Segments "x1-1y".toList 0 5 tokens ∧
      (∀ others, Segments "x1-1y".toList 0 5 others → tokens = others) ∧
      scan "x1 1.-2 y" = .error ⟨.numeral (.malformed "1.-2"), some 3⟩ ∧
      Segments "x1 1.-2 y".toList 0 3 [⟨.symbol "x1", 0⟩] := by
  intro tokens
  have scanned : scan "x1-1y" = .ok tokens := rfl
  have refused : scan "x1 1.-2 y" = .error ⟨.numeral (.malformed "1.-2"), some 3⟩ := rfl
  obtain ⟨segments, unique, -⟩ := scan_segments "x1-1y"
  have cut := (segments tokens).mp scanned
  obtain ⟨before, pos, position, part, upTo, -⟩ := ((scan_segments "x1 1.-2 y").2.2 _).mp refused
  cases position
  have known : scan (String.ofList ("x1 1.-2 y".toList.take 3)) = .ok [⟨.symbol "x1", 0⟩] := rfl
  rw [known] at part
  cases part
  exact ⟨cut, fun others other => unique tokens others cut other, refused, upTo⟩

end Token

end LambdaCalc
