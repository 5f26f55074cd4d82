import Avenger.Proofs.Lookahead

/-!
# Readers get further

A reader that starts at the first end of file or before it ends there or before it, too, and if it
succeeds it has taken a token, unless it reads the statements of a case, which may have none.  So
does each pass of a loop.  A budget of one more than the tokens before the end of file is therefore
not used up, and a larger one makes no difference.
-/

namespace Avenger

namespace Reader

variable {α : Type}

/-- The place of the first end of file. -/
def ending (tokens : List Token) : Nat :=
  (Token.closed tokens).findIdx (·.kind == .endOfFile)

/-- What a reader makes of the tokens from a place on. -/
def readFrom (reader : Reader α) (tokens : List Token) (budget place : Nat) :
    Except Stop (α × List Token) :=
  reader ⟨finish tokens, budget⟩ ((before tokens).drop place)

/-- The token that is next at a place. -/
def nextAt (tokens : List Token) (place : Nat) : Token :=
  ((before tokens).drop place).headD (finish tokens)

/-- How a reader ends that starts at a place: at least `least` tokens behind it and not behind the
first end of file, or with a syntax error. -/
inductive Advances (tokens : List Token) (budget place least : Nat) (reader : Reader α) :
    Prop where
  | ok {place' : Nat} (value : α) (further : place + least ≤ place')
      (inside : place' ≤ ending tokens)
      (read : reader.readFrom tokens budget place = .ok (value, (before tokens).drop place'))
  | error (error : SyntaxError)
      (failed : reader.readFrom tokens budget place = .error (.error error))

/-- That every reader of a part gets further than it starts if it succeeds. -/
def PartsAdvance : Prop :=
  ∀ (tokens : List Token) (budget place : Nat), place ≤ ending tokens → ending tokens < budget →
    ∀ {α : Type} (part : Part α), Advances tokens budget place 1 part.reader

end Reader

open Reader

/-- How far the readers get in some tokens, and with which budgets. -/
structure Program.ReadingAdvances (tokens : List Token) : Prop where
  loops : MadeOfLoops
  linear : ending tokens ≤ tokens.length
  /-- A place is one among the tokens with an end of file behind them. -/
  next : ∀ place, place ≤ ending tokens →
    (Token.closed tokens)[place]? = some (nextAt tokens place)
  parts : ∀ {α : Type} (part : Reader.Part α) (budget place : Nat), place ≤ ending tokens →
    ending tokens < budget →
      Advances tokens budget place (part.least (nextAt tokens place)) part.reader
  /-- A case without statements is read where it is. -/
  stays : ∀ budget place, (nextAt tokens place).kind ∈ caseStops →
    Part.caseBody.reader.readFrom tokens budget place = .ok ([], (before tokens).drop place)
  passes : ∀ {α : Type} (loop : Loop α) (held : α) (budget place : Nat), place ≤ ending tokens →
    ending tokens < budget → loop.goesOn held (nextAt tokens place) = true →
      Advances tokens budget place 1 (loop.pass held)
  funded : ∀ {α : Type} (part : Reader.Part α) (budget budget' place : Nat), ending tokens < budget →
    ending tokens < budget' →
      part.reader.readFrom tokens budget place = part.reader.readFrom tokens budget' place
  /-- The whole is a program or a syntax error, and the same with every budget that suffices. -/
  whole : ∀ budget, ending tokens < budget →
    Reader.program.runWithin budget tokens = (Program.ofTokens tokens).mapError .error

namespace Reader

variable {α : Type} {tokens : List Token} {budget place : Nat}

theorem ending_eq (tokens : List Token) : ending tokens = (before tokens).length := by
  obtain ⟨after, closed⟩ := closed_eq tokens
  have none : (before tokens).findIdx (·.kind == .endOfFile) = (before tokens).length := by
    rw [List.findIdx_eq_length]
    intro token member
    exact beq_eq_false_iff_ne.mpr (before_inside tokens token member)
  unfold ending
  rw [closed, List.findIdx_append, none, if_neg (Nat.lt_irrefl _), List.findIdx_cons,
    finish_kind tokens]
  exact Nat.zero_add _

theorem Decides.advances {size least : Nat} {sort : Token → Prop} {reader : Reader α}
    (decides : Decides budget size least sort reader) (fits : ending tokens < size)
    (inside : place ≤ ending tokens) (sorted : sort (nextAt tokens place)) :
    Advances tokens budget place least reader := by
  rw [ending_eq] at fits inside
  have short : ((before tokens).drop place).length = (before tokens).length - place :=
    List.length_drop
  have decided := decides ⟨finish tokens, budget⟩ ((before tokens).drop place) rfl
    (finish_kind tokens) (by omega) sorted
  cases decided with
  | @ok used rest value split enough settled =>
      have read := settled ⟨finish tokens, budget⟩ rest rfl (by rw [← split]; omega) (.refl _ rest)
      rw [← split] at read
      have left : rest = (before tokens).drop (place + used.length) := by
        rw [← List.drop_drop, split, List.drop_left]
      rw [split, List.length_append] at short
      refine .ok value (Nat.add_le_add_left enough place) ?_ (left ▸ read)
      rw [ending_eq]
      omega
  | @error used rest fault split found settled =>
      have failed := settled ⟨finish tokens, budget⟩ rest rfl (by rw [← split]; omega)
        (.refl _ rest)
      rw [← split] at failed
      exact .error _ failed

/-! ### Parts -/

section Parts

variable {size : Nat} (enough : size ≤ budget)

include enough

theorem Part.decides (part : Part α) (next : Token) :
    Decides budget size (part.least next) (· = next) part.reader := by
  have inner : Decides.Whole budget (size - 1) Reader.expression := .expression (by omega)
  have operand : Decides.Whole budget (size - 1) Reader.comparison := .comparison (by omega)
  have nested : Decides budget (size - 1) 1 anyToken Reader.statement := .statement (by omega)
  have calls := Decides.call enough inner operand
  have powers := Decides.arithmetic [.power] enough calls
  have products := Decides.arithmetic [.multiply, .divide, .modulo] enough powers
  cases part with
  | primary => exact (Decides.primary inner operand).sorted
  | unary => exact (Decides.unary inner operand).sorted
  | member => exact (Decides.member enough inner operand).sorted
  | call => exact calls.sorted
  | power => exact powers.sorted
  | product => exact products.sorted
  | sum => exact (Decides.arithmetic [.add, .subtract] enough products).sorted
  | comparison => exact (Decides.comparisonOver enough inner operand).sorted
  | logical => exact (Decides.logical enough inner operand).sorted
  | expression => exact (Decides.expression enough).sorted
  | declaration constant => exact Decides.declaration enough constant
  | branch => exact Decides.branch enough nested
  | loopWhile => exact Decides.loopWhile enough nested
  | team => exact Decides.team enough
  | multiverse => exact Decides.multiverse enough nested
  | loopRange => exact Decides.loopRange enough nested
  | loopFor => exact Decides.loopFor enough nested
  | assemble => exact Decides.assemble enough nested
  | parameter => exact Decides.parameter
  | statement => exact (Decides.statement enough).sorted
  | block construct => exact (Decides.block enough nested construct).sorted
  | caseBody =>
      have statements : Decides budget size 1 anyToken Reader.statement := .statement enough
      have least : Part.caseBody.least next = if next.kind ∈ caseStops then 0 else 1 := rfl
      rw [least]
      by_cases ends : next.kind ∈ caseStops
      · rw [if_pos ends]
        exact (Decides.itemsUntil enough statements).sorted
      · rw [if_neg ends]
        refine (Decides.itemsUntil_goesOn enough statements).mono (Nat.le_refl _)
          (Nat.le_refl 1) ?_
        rintro _ rfl
        exact ends

theorem Loop.decides (loop : Loop α) (held : α) :
    Decides budget size 1 (loop.goesOn held · = true) (loop.pass held) := by
  have inner : Decides.Whole budget size Reader.expression := .expression enough
  have statements : Decides budget size 1 anyToken Reader.statement := .statement enough
  have nested : Decides budget (size - 1) 1 anyToken Reader.statement :=
    statements.smaller (Nat.sub_le _ _)
  cases loop with
  | program | block | caseBody => exact .addItem statements held
  | teamValues => exact .addItem (.teamValue enough) held
  | cases => exact .caseOf enough nested held
  | alternatives => exact .alternative enough nested held
  | parameters => exact .addSeparated .parameter held
  | arguments => exact .addSeparated inner held
  | indexes => exact .addIndex inner held
  | calls => exact .addArguments enough inner held
  | powers => exact .addArithmetic _ (.ofNext (Part.call.decides enough)) held
  | products => exact .addArithmetic _ (.ofNext (Part.power.decides enough)) held
  | sums => exact .addArithmetic _ (.ofNext (Part.product.decides enough)) held
  | comparisons =>
      exact .addJoined _ (fun _ kind unknown => .unknownComparison kind unknown)
        (.ofNext (Part.sum.decides enough)) held
  | connectives =>
      exact .addJoined _ (fun _ kind unknown => .unknownConnective kind unknown)
        (.ofNext (Part.comparison.decides enough)) held

end Parts

theorem Action.relabel_id (action : Action) : action.relabel id = action :=
  Action.relabel_eq_self fun _ _ => rfl

theorem Stmt.listRelabel_id (statements : List Stmt) :
    Stmt.listRelabel id statements = statements :=
  Stmt.listRelabel_eq_self fun _ _ => rfl

section Funded

variable {finish : Token} {budget budget' : Nat} (ends : finish.kind = .endOfFile)
  (fits : tokens.length < budget) (fits' : tokens.length < budget')

include ends fits fits'

/-- Parts are read alike with any two budgets that suffice. -/
theorem Part.funded (part : Part α) :
    part.reader ⟨finish, budget⟩ tokens = part.reader ⟨finish, budget'⟩ tokens := by
  let move : Relocation := ⟨id, ⟨finish, budget⟩, ⟨finish, budget'⟩, [], ends⟩
  let size := tokens.length + 1
  have enough : size ≤ move.home.budget := fits
  have enough' : size ≤ move.away.budget := fits'
  have inner : move.Same size Reader.expression Reader.expression :=
    Relocation.expression_moves enough enough'
  have operand : move.Same size Reader.comparison Reader.comparison :=
    (Relocation.within_moves enough enough' enough enough').2
  have nested : move.Nested size Reader.statement Reader.statement :=
    (Relocation.statement_moves enough enough').mono (Nat.le_refl _) (Nat.le_refl 1) False.elim
  have inner' := inner.smaller (Nat.sub_le size 1)
  have operand' := operand.smaller (Nat.sub_le size 1)
  have nested' := nested.smaller (Nat.sub_le size 1)
  have calls := Relocation.call_moves enough enough' inner' operand'
  have powers := Relocation.arithmetic_moves [.power] enough enough' calls
  have products := Relocation.arithmetic_moves [.multiply, .divide, .modulo] enough enough' powers
  have expressions {reader : Reader Expr} (moves : move.Same size reader reader) :
      reader ⟨finish, budget⟩ tokens = reader ⟨finish, budget'⟩ tokens :=
    moves.alike (fun _ => rfl) (Nat.lt_succ_self _)
  have actions {reader : Reader Action}
      (moves : move.Moves size 1 False (Action.relabel id) reader reader) :
      reader ⟨finish, budget⟩ tokens = reader ⟨finish, budget'⟩ tokens :=
    moves.alike Action.relabel_id (Nat.lt_succ_self _)
  have rows {spent : Nat} {reader : Reader (List Stmt)}
      (moves : move.Moves size spent False (Stmt.listRelabel id) reader reader) :
      reader ⟨finish, budget⟩ tokens = reader ⟨finish, budget'⟩ tokens :=
    moves.alike Stmt.listRelabel_id (Nat.lt_succ_self _)
  cases part with
  | primary => exact expressions (Relocation.primary_moves inner' operand')
  | unary => exact expressions (Relocation.unary_moves inner' operand')
  | member => exact expressions (Relocation.member_moves enough enough' inner' operand')
  | call => exact expressions calls
  | power => exact expressions powers
  | product => exact expressions products
  | sum =>
      exact expressions (Relocation.arithmetic_moves [.add, .subtract] enough enough' products)
  | comparison =>
      exact expressions (Relocation.comparisonOver_moves enough enough' inner' operand')
  | logical => exact expressions (Relocation.logical_moves enough enough' inner' operand')
  | expression => exact expressions inner
  | declaration constant =>
      exact actions (Relocation.declaration_moves enough enough' constant)
  | branch =>
      exact actions ((Relocation.branch_moves enough enough' nested').mono (Nat.le_refl _)
        (Nat.le_refl 1) False.elim)
  | loopWhile => exact actions (Relocation.loopWhile_moves enough enough' nested')
  | team => exact actions (Relocation.team_moves enough enough')
  | multiverse => exact actions (Relocation.multiverse_moves enough enough' nested')
  | loopRange => exact actions (Relocation.loopRange_moves enough enough' nested')
  | loopFor => exact actions (Relocation.loopFor_moves enough enough' nested')
  | assemble => exact actions (Relocation.assemble_moves enough enough' nested')
  | parameter =>
      have names : move.Moves size 1 False id Reader.parameter Reader.parameter :=
        Relocation.parameter_moves
      exact names.alike (fun _ => rfl) (Nat.lt_succ_self _)
  | statement => exact nested.alike Stmt.relabel_id (Nat.lt_succ_self _)
  | block construct => exact rows (Relocation.block_moves enough enough' nested' construct)
  | caseBody => exact rows (Relocation.statements_moves enough enough' (by decide) nested)

end Funded

/-! ### Programs -/

theorem caseBody_of_stop {setting : Setting} {left : List Token}
    (stop : (left.headD setting.finish).kind ∈ caseStops) :
    Reader.caseBody Reader.statement setting left = .ok ([], left) := by
  have stops : Loop.caseBody.goesOn [] (left.headD setting.finish) = false := by
    show (!caseStops.contains (left.headD setting.finish).kind) = false
    rw [List.contains_iff_mem.mpr stop]
    rfl
  have row : Loop.caseBody.run [] setting left = .ok ([], left) := foldTurns_of_stop stops
  exact bind_of_ok row

/-- A budget that suffices is not used up. -/
theorem runWithin_program (fits : ending tokens < budget) :
    Reader.program.runWithin budget tokens = (Program.ofTokens tokens).mapError .error := by
  have advances : Advances tokens budget 0 0 Reader.program :=
    (Decides.program (Nat.le_refl budget)).advances fits (Nat.zero_le _) trivial
  rw [ending_eq] at fits
  unfold runWithin
  cases advances with
  | ok program _ _ read =>
      change Reader.program ⟨finish tokens, budget⟩ (before tokens) = _ at read
      rw [Program.ofTokens_of_ok fits read, read]
      rfl
  | error error failed =>
      change Reader.program ⟨finish tokens, budget⟩ (before tokens) = _ at failed
      rw [Program.ofTokens_of_error fits failed, failed]
      rfl

end Reader

/-- Whatever the tokens are, every part but an empty case takes a token, every pass of a loop does,
nothing gets behind the first end of file, and with a budget that exceeds the tokens before it the
reading ends with a program or a syntax error, the same for every such budget. -/
theorem Program.reading_advances (tokens : List Token) : Program.ReadingAdvances tokens where
  loops := madeOfLoops
  linear := by
    rw [ending_eq]
    exact before_length_le tokens
  next place inside := by
    obtain ⟨after, closed⟩ := closed_eq tokens
    rw [closed]
    exact getElem?_append_cons (ending_eq tokens ▸ inside)
  parts part budget place inside fits :=
    (part.decides (Nat.le_refl budget) _).advances fits inside rfl
  stays _ _ stop := caseBody_of_stop stop
  passes loop held budget place inside fits goesOn :=
    (loop.decides (Nat.le_refl budget) held).advances fits inside goesOn
  funded part budget budget' place fits fits' := by
    rw [ending_eq] at fits fits'
    have short : ((before tokens).drop place).length ≤ (before tokens).length :=
      List.length_drop ▸ Nat.sub_le _ _
    exact part.funded (finish_kind tokens) (by omega) (by omega)
  whole _ fits := runWithin_program fits

/-- The tokens of `multiverse (1) { default: }`. -/
def Token.emptyDefault : List Token :=
  [⟨.multiverse, "multiverse", 1⟩, ⟨.openParen, "(", 1⟩, ⟨.number, "1", 1⟩, ⟨.closeParen, ")", 1⟩,
    ⟨.openBrace, "\x7b", 1⟩, ⟨.default, "default", 1⟩, ⟨.colon, ":", 1⟩, ⟨.closeBrace, "\x7d", 1⟩,
    Token.endOfFile 1]

/-- It is not so that every part takes a token: the statements of the default are read at the brace
behind them, which stays where it is. -/
theorem Reader.caseBody_stays :
    Part.caseBody.reader.readFrom Token.emptyDefault 9 7 =
        .ok ([], [⟨.closeBrace, "\x7d", 1⟩]) ∧
      ¬ PartsAdvance := by
  have read : Part.caseBody.reader.readFrom Token.emptyDefault 9 7 =
      .ok ([], [⟨.closeBrace, "\x7d", 1⟩]) :=
    caseBody_of_stop (by decide)
  have whole : ending Token.emptyDefault = 8 := by decide
  refine ⟨read, fun advance => ?_⟩
  cases advance Token.emptyDefault 9 7 (by rw [whole]; decide) (by rw [whole]; decide)
      Part.caseBody with
  | @ok place' value further inside read' =>
      rw [whole] at inside
      obtain rfl : place' = 8 := by omega
      cases read.symm.trans read'
  | error error failed => cases read.symm.trans failed

end Avenger
