import LambdaCalc.Proofs.Source
import LambdaCalc.Proofs.Text.Visible

namespace LambdaCalc

namespace Text

def lines (s : String) : List String := (s.toList.splitOn '\n').map String.ofList

def indented (margin s : String) : String := "\n".intercalate ((lines s).map (margin ++ ·))

def breaks (s : String) : Nat := s.toList.count '\n'

theorem length_lines (s : String) : (lines s).length = breaks s + 1 := by
  rw [lines, List.length_map, breaks]
  induction s.toList with
  | nil => rfl
  | cons c cs ih =>
    rw [List.splitOn_cons_eq_if_modifyHead, List.count_cons]
    split
    · rw [List.length_cons, ih]
    · rw [List.length_modifyHead, ih, Nat.add_zero]

theorem breaks_append (s t : String) : breaks (s ++ t) = breaks s + breaks t := by
  rw [breaks, String.toList_append, List.count_append]
  rfl

theorem breaks_of_visible {s : String} (visible : Visible s) : breaks s = 0 := List.count_eq_zero.mpr visible.not_mem

def shifted (margin cs : List Char) : List Char := cs.flatMap fun c => if c = '\n' then '\n' :: margin else [c]

variable {margin cs ds : List Char}

theorem shifted_append : shifted margin (cs ++ ds) = shifted margin cs ++ shifted margin ds := List.flatMap_append

theorem shifted_break : shifted margin ('\n' :: cs) = '\n' :: (margin ++ shifted margin cs) := by
  rw [shifted, List.flatMap_cons, if_pos rfl]
  rfl

theorem shifted_cons_of_ne {c : Char} (other : c ≠ '\n') : shifted margin (c :: cs) = c :: shifted margin cs := by
  rw [shifted, List.flatMap_cons, if_neg other]
  rfl

theorem shifted_of_not_mem (plain : '\n' ∉ cs) : shifted margin cs = cs := by
  induction cs with
  | nil => rfl
  | cons c cs ih =>
    rw [List.mem_cons, not_or] at plain
    rw [shifted_cons_of_ne (Ne.symm plain.1), ih plain.2]

theorem intercalate_append_cons {α : Type} (separator front first : List α) (rest : List (List α)) :
    separator.intercalate ((front ++ first) :: rest) = front ++ separator.intercalate (first :: rest) := by
  cases rest with
  | nil => rw [List.intercalate_singleton, List.intercalate_singleton]
  | cons next rest =>
    rw [List.intercalate_cons_cons, List.intercalate_cons_cons, List.append_assoc, List.append_assoc,
      List.append_assoc]

theorem intercalate_splitOn_margin (margin cs : List Char) :
    ['\n'].intercalate ((cs.splitOn '\n').map (margin ++ ·)) = margin ++ shifted margin cs := by
  induction cs with
  | nil => rw [List.splitOn_nil, List.map_cons, List.map_nil, List.intercalate_singleton, shifted, List.flatMap_nil]
  | cons c cs ih =>
    obtain ⟨first, rest, split⟩ := List.exists_cons_of_ne_nil (List.splitOn_ne_nil '\n' cs)
    rw [split, List.map_cons] at ih
    rw [List.splitOn_cons_eq_if_modifyHead, split]
    -- A line break starts a line and gets a margin; any other character joins the first line behind its margin.
    by_cases same : c = '\n'
    · rw [if_pos (beq_iff_eq.mpr same), List.map_cons, List.map_cons, List.intercalate_cons_cons, ih, same,
        shifted_break, List.append_nil, List.append_assoc]
      rfl
    · rw [intercalate_append_cons, List.append_cancel_left_eq] at ih
      rw [if_neg (mt beq_iff_eq.mp same), List.modifyHead_cons, List.map_cons, intercalate_append_cons,
        shifted_cons_of_ne same, ← ih]
      exact congrArg (margin ++ ·) (intercalate_append_cons ['\n'] [c] first _)

theorem toList_indented (margin s : String) :
    (indented margin s).toList = margin.toList ++ shifted margin.toList s.toList := by
  have texts : ((lines s).map (margin ++ ·)).map String.toList = (s.toList.splitOn '\n').map (margin.toList ++ ·) := by
    rw [lines, List.map_map, List.map_map]
    apply List.map_congr_left
    intro line _
    rw [Function.comp_apply, Function.comp_apply, String.toList_append, String.toList_ofList]
  rw [indented, String.toList_intercalate, texts]
  exact intercalate_splitOn_margin margin.toList s.toList

theorem visible_quoted (s : String) : Visible (quoted s) := visible_quotedChars s.toList

theorem visible_bracketed {items : List String} (each : ∀ item ∈ items, Visible item) : Visible (bracketed items) := by
  have listed : Visible (", ".intercalate items) := by
    induction items with
    | nil => decide
    | cons item items ih =>
      obtain ⟨first, rest⟩ := List.forall_mem_cons.mp each
      cases items with
      | nil => exact first
      | cons next items =>
        rw [String.intercalate_cons_cons]
        exact (first.append (by decide)).append (ih rest)
  exact ((by decide : Visible "[").append listed).append (by decide)

end Text

namespace Expr

open Text

mutual

def leaves : Expr → Nat
  | literal _ => 1
  | name _ => 1
  | lambda _ body => body.leaves
  | call operator operands => operator.leaves + leavesAll operands

def leavesAll : List Expr → Nat
  | [] => 0
  | e :: es => e.leaves + leavesAll es

end

mutual

def branches : Expr → Nat
  | literal _ => 0
  | name _ => 0
  | lambda _ body => body.branches + 1
  | call operator operands => operator.branches + branchesAll operands + 1

def branchesAll : List Expr → Nat
  | [] => 0
  | e :: es => e.branches + branchesAll es

end

theorem trees_eq_map (indent : Int) (es : List Expr) : trees indent es = es.map (tree indent) := by
  induction es with
  | nil => rfl
  | cons e es ih => rw [trees, ih, List.map_cons]

/-- An opening, the parts of the node below it, and a closing parenthesis, each on lines of their own. -/
def framed (indent : Int) (opening parts : String) : String :=
  indentation indent ++ opening ++ "\n" ++ parts ++ "\n" ++ indentation indent ++ ")"

def lambdaOpening (parameters : List String) : String :=
  "LambdaExpr(" ++ bracketed (parameters.map quoted) ++ ","

theorem tree_lambda (indent : Int) (parameters : List String) (body : Expr) :
    (lambda parameters body).tree indent = framed indent (lambdaOpening parameters) (body.tree (indent + 1)) := by
  have comma : ",\n" = "," ++ "\n" := rfl
  simp only [tree, framed, lambdaOpening, comma, String.append_assoc]

theorem tree_call (indent : Int) (operator : Expr) (operands : List Expr) :
    (call operator operands).tree indent =
      framed indent "CallExpr(" (",\n".intercalate ((operator :: operands).map (tree (indent + 1)))) := by
  have opening : "CallExpr(\n" = "CallExpr(" ++ "\n" := rfl
  simp only [tree, framed, trees_eq_map, List.map_cons, opening, String.append_assoc]

theorem visible_lambdaOpening (parameters : List String) : Visible (lambdaOpening parameters) := by
  have names : Visible (bracketed (parameters.map quoted)) := by
    apply visible_bracketed
    intro item member
    obtain ⟨name, -, rfl⟩ := List.mem_map.mp member
    exact visible_quoted name
  exact ((by decide : Visible "LambdaExpr(").append names).append (by decide)

theorem newline_not_mem_indentation (indent : Int) : '\n' ∉ (indentation indent).toList := by
  rw [indentation, String.toList_ofList]
  intro member
  exact absurd (List.eq_of_mem_replicate member) (by decide)

theorem indentation_add (i k : Nat) :
    (indentation ((i + k : Nat) : Int)).toList = (indentation k).toList ++ (indentation i).toList := by
  simp only [indentation, String.toList_ofList, List.replicate_append_replicate, Int.toNat_natCast]
  congr 1
  omega

/-- `Shifts k before after`: every line of the text is moved by `k` steps. -/
def Shifts (k : Nat) (before after : String) : Prop :=
  after.toList = (indentation k).toList ++ shifted (indentation k).toList before.toList

theorem shifts_line {line : String} (visible : Visible line) (i k : Nat) :
    Shifts k (indentation i ++ line) (indentation ((i + k : Nat) : Int) ++ line) := by
  rw [Shifts, String.toList_append, String.toList_append, shifted_append,
    shifted_of_not_mem (newline_not_mem_indentation i), shifted_of_not_mem visible.not_mem, indentation_add,
    List.append_assoc]

section

variable {k : Nat} {before after other moved : String}

theorem Shifts.append (shifts : Shifts k before after) {tail : String} (visible : Visible tail) :
    Shifts k (before ++ tail) (after ++ tail) := by
  rw [Shifts] at shifts ⊢
  rw [String.toList_append, String.toList_append, shifts, shifted_append, shifted_of_not_mem visible.not_mem,
    List.append_assoc]

theorem Shifts.break (shifts : Shifts k before after) (next : Shifts k other moved) :
    Shifts k (before ++ "\n" ++ other) (after ++ "\n" ++ moved) := by
  have newline : "\n".toList = ['\n'] := rfl
  rw [Shifts] at shifts next ⊢
  simp only [String.toList_append, newline, shifts, next, shifted_append, List.append_assoc, List.cons_append,
    List.nil_append, shifted_break]

theorem shifts_framed {opening : String} (visible : Visible opening) {i : Nat} (parts : Shifts k before after) :
    Shifts k (framed i opening before) (framed ((i + k : Nat) : Int) opening after) := by
  have first := shifts_line visible i k
  have last := shifts_line (by decide : Visible ")") i k
  have whole := (first.break parts).break last
  simp only [framed, String.append_assoc] at whole ⊢
  exact whole

end

theorem shifts_intercalate {k : Nat} {before after : Expr → String} {e : Expr} {es : List Expr}
    (each : ∀ d ∈ e :: es, Shifts k (before d) (after d)) :
    Shifts k (",\n".intercalate ((e :: es).map before)) (",\n".intercalate ((e :: es).map after)) := by
  induction es generalizing e with
  | nil => exact each e List.mem_cons_self
  | cons next es ih =>
    obtain ⟨first, rest⟩ := List.forall_mem_cons.mp each
    -- The comma ends the last line of the part before it.
    have comma : ",\n" = "," ++ "\n" := rfl
    have whole := (first.append (by decide : Visible ",")).break (ih rest)
    simp only [List.map_cons, String.intercalate_cons_cons, comma, String.append_assoc] at whole ⊢
    exact whole

theorem shifts_tree (e : Expr) (i k : Nat) : Shifts k (e.tree i) (e.tree ((i + k : Nat) : Int)) := by
  have next (i : Nat) : ((i + k : Nat) : Int) + 1 = ((i + 1 + k : Nat) : Int) := by omega
  have closing : Visible ")" := by decide
  induction e using structural generalizing i with
  | literal n =>
    have line := shifts_line (((by decide : Visible "Literal(").append n.visible_display).append closing) i k
    simp only [tree, String.append_assoc] at line ⊢
    exact line
  | name s =>
    have line := shifts_line (((by decide : Visible "Name(").append (visible_quoted s)).append closing) i k
    simp only [tree, String.append_assoc] at line ⊢
    exact line
  | lambda parameters body inner =>
    rw [tree_lambda, tree_lambda, next]
    exact shifts_framed (visible_lambdaOpening parameters) (inner (i + 1))
  | call operator operands first rest =>
    rw [tree_call, tree_call, next]
    apply shifts_framed (by decide)
    apply shifts_intercalate
    intro d member
    rcases List.mem_cons.mp member with rfl | operand
    · exact first (i + 1)
    · exact rest d operand (i + 1)

theorem breaks_indentation (indent : Int) : breaks (indentation indent) = 0 :=
  List.count_eq_zero.mpr (newline_not_mem_indentation indent)

theorem breaks_framed {opening : String} (visible : Visible opening) (indent : Int) (parts : String) :
    breaks (framed indent opening parts) = breaks parts + 2 := by
  have newline : breaks "\n" = 1 := rfl
  have closing : breaks ")" = 0 := rfl
  simp only [framed, breaks_append, breaks_indentation, breaks_of_visible visible, newline, closing]
  omega

theorem breaks_intercalate (e : Expr) (es : List Expr) (indent : Int)
    (each : ∀ d ∈ e :: es, breaks (d.tree indent) + 1 = d.leaves + 2 * d.branches) :
    breaks (",\n".intercalate ((e :: es).map (tree indent))) + 1 =
      leavesAll (e :: es) + 2 * branchesAll (e :: es) := by
  induction es generalizing e with
  | nil =>
    have only := each e List.mem_cons_self
    rw [List.map_cons, List.map_nil, String.intercalate_singleton]
    simp only [leavesAll, branchesAll]
    omega
  | cons next es ih =>
    obtain ⟨first, rest⟩ := List.forall_mem_cons.mp each
    have later := ih next rest
    have separator : breaks ",\n" = 1 := rfl
    rw [List.map_cons, List.map_cons, String.intercalate_cons_cons, ← List.map_cons, breaks_append, breaks_append,
      separator, leavesAll, branchesAll]
    omega

theorem breaks_tree (e : Expr) (indent : Int) : breaks (e.tree indent) + 1 = e.leaves + 2 * e.branches := by
  have closing : breaks ")" = 0 := rfl
  induction e using structural generalizing indent with
  | literal n =>
    have opening : breaks "Literal(" = 0 := rfl
    simp only [tree, breaks_append, breaks_indentation, breaks_of_visible n.visible_display, opening, closing, leaves,
      branches]
  | name s =>
    have opening : breaks "Name(" = 0 := rfl
    simp only [tree, breaks_append, breaks_indentation, breaks_of_visible (visible_quoted s), opening, closing, leaves,
      branches]
  | lambda parameters body inner =>
    have inside := inner (indent + 1)
    rw [tree_lambda, breaks_framed (visible_lambdaOpening parameters), leaves, branches]
    omega
  | call operator operands first rest =>
    have inside := breaks_intercalate operator operands (indent + 1) fun d member => by
      rcases List.mem_cons.mp member with rfl | operand
      · exact first (indent + 1)
      · exact rest d operand (indent + 1)
    rw [tree_call, breaks_framed (by decide), leaves, branches]
    rw [leavesAll, branchesAll] at inside
    omega

/-- Indentation by `k` steps puts four blanks for each step before every line of the tree and changes nothing else.
There is one line for each literal and name, and there are two for each lambda and call. -/
theorem tree_indented (stack : Stack) (e : Expr) (k : Nat) :
    let margin := String.ofList (List.replicate (4 * k) ' ')
    e.tree k = indented margin (e.tree 0) ∧
    e.tree? stack k = (e.tree? stack 0).map (indented margin) ∧
    (lines (e.tree k)).length = e.leaves + 2 * e.branches := by
  intro margin
  have moved : e.tree k = indented margin (e.tree 0) := by
    have shifts := shifts_tree e 0 k
    rw [Nat.zero_add] at shifts
    rw [← String.toList_inj, toList_indented]
    exact shifts
  refine ⟨moved, ?_, ?_⟩
  · rw [tree?, tree?, moved]
    cases e.writable stack.tree <;> rfl
  · rw [length_lines]
    exact e.breaks_tree k

end Expr

end LambdaCalc
