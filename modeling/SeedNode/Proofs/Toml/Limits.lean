import SeedNode.Toml.Document

/-!
# The limit on digits

A decimal integer of a settings document may have only so many digits, and one that has more stops
the reading (`limit_of_parse`). That is the only thing besides a syntax error that does:
`Limited` says so of one reader and is closed under everything that readers are built with. The
limit is one of decimal text alone. An integer in base sixteen may be of any size
(`parse_hexadecimal`), so a settings table may hold integers that have no decimal text.
-/

namespace SeedNode.Toml

variable {α β : Type}

/-! ## What stops a reader -/

/-- If the reader stops for the limit on digits, the number it stopped at is over that limit. -/
def Limited (r : Except Stop α) : Prop :=
  ∀ digits, r = .error (.tooLong digits) → maxDigits < digits

namespace Limited

theorem ok (a : α) : Limited (.ok a) := by
  intro digits h
  cases h

theorem stop (complaint : Complaint) (ahead : List Char) :
    Limited (Toml.stop complaint ahead : Except Stop α) := by
  intro digits h
  cases h

theorem bind {x : Except Stop α} {f : α → Except Stop β} (hx : Limited x)
    (hf : ∀ a, Limited (f a)) : Limited (x >>= f) := by
  intro digits h
  cases x with
  | error e => exact hx digits (congrArg Except.error (Except.error.inj h))
  | ok a => exact hf a digits h

theorem map {x : Except Stop α} (hx : Limited x) (g : α → β) : Limited (x.map g) := by
  intro digits h
  cases x with
  | error e => exact hx digits (congrArg Except.error (Except.error.inj h))
  | ok a => cases h

end Limited

/-! ## Texts and keys -/

theorem literalBody_limited (token : String) (legal : Char → Bool) (ahead : List Char) :
    Limited (literalBody token legal ahead) := by
  rw [literalBody]
  split
  · exact .stop _ _
  · split
    · exact .ok _
    · split <;> exact .stop _ _

theorem numbered_limited (digits ahead after : List Char) :
    Limited (numbered digits ahead after) := by
  rw [numbered]
  split
  · exact .stop _ _
  · split
    · exact .ok _
    · exact .stop _ _

theorem basicBody_limited (lines : Bool) (blanks : Blanks) (done ahead : List Char) :
    Limited (basicBody lines blanks done ahead) := by
  fun_induction basicBody lines blanks done ahead
  case case9 | case10 =>
    rename_i ih
    exact .bind (numbered_limited _ _ _) ih
  all_goals first | exact .stop _ _ | exact .ok _ | assumption

theorem lineText_limited (ahead : List Char) : Limited (lineText ahead) := by
  unfold lineText
  split
  · exact literalBody_limited _ _ _
  · exact basicBody_limited _ _ _ _

theorem linesText_limited (ahead : List Char) : Limited (linesText ahead) := by
  unfold linesText
  split
  · exact .bind (literalBody_limited _ _ _) fun _ => .ok _
  · exact .bind (basicBody_limited _ _ _ _) fun _ => .ok _

theorem keyPart_limited (ahead : List Char) : Limited (keyPart ahead) := by
  unfold keyPart
  split
  · exact .stop _ _
  · split
    · exact .ok _
    · split
      · exact (lineText_limited _).map _
      · exact .stop _ _

theorem key_limited (fuel : Nat) (ahead : List Char) : Limited (key fuel ahead) := by
  induction fuel generalizing ahead with
  | zero => exact .stop _ _
  | succ fuel ih =>
      refine .bind (keyPart_limited ahead) fun taken => ?_
      dsimp only
      split
      · exact .bind (ih _) fun _ => .ok _
      · exact .ok _

theorem skipFrom_limited (commented : Bool) (ahead : List Char) :
    Limited (skipFrom commented ahead) := by
  fun_induction skipFrom commented ahead
  all_goals first | exact .stop _ _ | exact .ok _ | assumption

theorem skipComment_limited (ahead : List Char) : Limited (skipComment ahead) := by
  unfold skipComment
  split
  · split
    · exact .ok _
    · split
      · exact .ok _
      · exact .stop _ _
  · exact .ok _

/-! ## Values -/

theorem number?_limited {ahead : List Char} {r : Except Stop (Value × List Char)}
    (h : number? ahead = some r) : Limited r := by
  rw [number?] at h
  split at h
  · obtain rfl := Option.some.inj h
    exact .ok _
  · obtain ⟨⟨whole, rest⟩, -, h⟩ := Option.bind_eq_some_iff.mp h
    dsimp only at h
    split at h
    · obtain rfl := Option.some.inj h
      exact .ok _
    split at h
    · rename_i hlimit
      obtain rfl := Option.some.inj h
      intro digits hdigits
      obtain rfl := Stop.tooLong.inj (Except.error.inj hdigits)
      exact hlimit
    · obtain rfl := Option.some.inj h
      exact .ok _

theorem scalar_limited (ahead : List Char) : Limited (scalar ahead) := by
  rw [scalar]
  split
  · split
    · exact .stop _ _
    · split <;> exact .ok _
  · split
    · exact .ok _
    · split
      · exact number?_limited ‹_›
      · split
        · exact .ok _
        · exact .stop _ _

theorem add_limited (t : Inline) (key : Key) (v : Value) (ahead : List Char) :
    Limited (t.add key v ahead) := by
  unfold Inline.add
  split
  · exact .stop _ _
  · split
    · exact .stop _ _
    · dsimp only
      split
      · exact .stop _ _
      · exact .ok _

section Items

variable {fuel : Nat}

theorem value_limited (helements : ∀ done ahead, Limited (elements fuel done ahead))
    (hpairs : ∀ done ahead, Limited (pairs fuel done ahead)) (ahead : List Char) :
    Limited (value (fuel + 1) ahead) := by
  unfold value
  dsimp only
  split
  case h_3 =>
    refine .bind (skipFrom_limited _ _) fun rest => ?_
    split
    · exact .ok _
    · exact (helements _ _).map _
  case h_4 =>
    split
    · exact .ok _
    · exact (hpairs _ _).map _
  case h_5 =>
    split
    · exact .ok _
    · split
      · exact .ok _
      · exact scalar_limited _
  all_goals
    split
    · exact (linesText_limited _).map _
    · exact (lineText_limited _).map _

theorem elements_limited (hvalue : ∀ ahead, Limited (value fuel ahead))
    (helements : ∀ done ahead, Limited (elements fuel done ahead)) (done : List Value)
    (ahead : List Char) : Limited (elements (fuel + 1) done ahead) := by
  unfold elements
  refine .bind (hvalue ahead) fun taken => .bind (skipFrom_limited _ _) fun after => ?_
  split
  · exact .ok _
  · refine .bind (skipFrom_limited _ _) fun rest => ?_
    split
    · exact .ok _
    · exact helements _ _
  · exact .stop _ _

theorem pairs_limited (hpair : ∀ ahead, Limited (pair fuel ahead))
    (hpairs : ∀ done ahead, Limited (pairs fuel done ahead)) (done : Inline)
    (ahead : List Char) : Limited (pairs (fuel + 1) done ahead) := by
  unfold pairs
  refine .bind (hpair ahead) fun taken => .bind (add_limited _ _ _ _) fun done => ?_
  split
  · exact .ok _
  · exact hpairs _ _
  · exact .stop _ _

theorem pair_limited (hvalue : ∀ ahead, Limited (value fuel ahead)) (ahead : List Char) :
    Limited (pair (fuel + 1) ahead) := by
  unfold pair
  refine .bind (key_limited _ _) fun taken => ?_
  dsimp only
  split
  · exact .bind (hvalue _) fun _ => .ok _
  · exact .stop _ _

end Items

/-- The readers of values call each other, each time with less fuel. -/
theorem items_limited (fuel : Nat) :
    (∀ ahead, Limited (value fuel ahead)) ∧ (∀ done ahead, Limited (elements fuel done ahead))
      ∧ (∀ done ahead, Limited (pairs fuel done ahead)) ∧ ∀ ahead, Limited (pair fuel ahead) := by
  induction fuel with
  | zero =>
      refine ⟨fun ahead => ?_, fun done ahead => ?_, fun done ahead => ?_, fun ahead => ?_⟩
      · unfold value
        exact .stop _ _
      · unfold elements
        exact .stop _ _
      · unfold pairs
        exact .stop _ _
      · unfold pair
        exact .stop _ _
  | succ fuel ih =>
      obtain ⟨hvalue, helements, hpairs, hpair⟩ := ih
      exact ⟨value_limited helements hpairs, elements_limited hvalue helements,
        pairs_limited hpair hpairs, pair_limited hvalue⟩

/-! ## Documents -/

theorem openTable_limited (d : Draft) (key : Key) (ahead : List Char) :
    Limited (d.openTable key ahead) := by
  unfold Draft.openTable
  split
  · exact .stop _ _
  · split
    · exact .stop _ _
    · exact .ok _

theorem openElement_limited (d : Draft) (key : Key) (ahead : List Char) :
    Limited (d.openElement key ahead) := by
  unfold Draft.openElement
  split
  · exact .stop _ _
  · split
    · exact .stop _ _
    · exact .ok _

theorem assign_limited (d : Draft) (key : Key) (v : Value) (ahead : List Char) :
    Limited (d.assign key v ahead) := by
  unfold Draft.assign
  dsimp only
  split
  · exact .stop _ _
  · split
    · exact .stop _ _
    · split
      · exact .stop _ _
      · exact .ok _

theorem headerLine_limited (d : Draft) (ahead : List Char) : Limited (headerLine d ahead) := by
  unfold headerLine
  dsimp only
  split
  · refine .bind (key_limited _ _) fun taken => .bind (openElement_limited _ _ _) fun d => ?_
    split
    · exact .ok _
    · exact .stop _ _
  · refine .bind (key_limited _ _) fun taken => .bind (openTable_limited _ _ _) fun d => ?_
    split
    · exact .ok _
    · exact .stop _ _

theorem statement_limited (d : Draft) (ahead : List Char) : Limited (statement d ahead) := by
  unfold statement
  split
  · exact .ok _
  · split
    · exact .bind ((items_limited _).2.2.2 _) fun taken =>
        .bind (assign_limited _ _ _ _) fun d => .ok _
    · split
      · exact .bind (headerLine_limited _ _) fun d => .ok _
      · split
        · exact .ok _
        · exact .stop _ _

theorem statements_limited (fuel : Nat) (d : Draft) (ahead : List Char) :
    Limited (statements fuel d ahead) := by
  induction fuel generalizing d ahead with
  | zero => exact .ok _
  | succ fuel ih =>
      unfold statements
      split
      · exact .ok _
      · exact ih _ _
      · refine .bind (statement_limited _ _) fun taken => ?_
        refine .bind (skipComment_limited _) fun rest => ?_
        split
        · exact .ok _
        · exact ih _ _
        · exact .stop _ _

/-- A document that is refused for the limit on digits holds a number over that limit. -/
theorem limit_of_parse {text : List Char} {digits : Nat}
    (h : parse text = .error (.tooLong digits)) : maxDigits < digits := by
  unfold parse at h
  dsimp only at h
  split at h
  · cases h
  · cases h
  · rename_i hstop
    obtain rfl := Refusal.tooLong.inj (Except.error.inj h)
    exact statements_limited _ _ _ _ hstop

/-! ## Integers without a limit -/

theorem digitRun_replicate {isDigit : Char → Bool} (hdigit : isDigit 'f' = true) (n : Nat)
    (after : Bool) :
    digitRun isDigit after (List.replicate n 'f') = (List.replicate n 'f', []) := by
  induction n generalizing after with
  | zero => rfl
  | succ n ih =>
      rw [List.replicate_succ, digitRun, if_pos hdigit, ih]
      simp

/-- Digits `f` come to one less than a power of sixteen. -/
theorem inBase_replicate (n : Nat) :
    inBase 16 (List.replicate n 'f') + 1 = Nat.pow 16 n := by
  have hfold : ∀ a, (List.replicate n 'f').foldl (fun m c => m * 16 + (Hex.digit? c).getD 0) a + 1
      = (a + 1) * Nat.pow 16 n := by
    induction n with
    | zero => exact fun a => (Nat.mul_one _).symm
    | succ n ih =>
        intro a
        have hdigit : (Hex.digit? 'f').getD 0 = 15 := by decide
        have hpow : Nat.pow 16 (n + 1) = 16 * Nat.pow 16 n := Nat.mul_comm _ _
        rw [List.replicate_succ, List.foldl_cons, ih, hdigit, hpow, ← Nat.mul_assoc]
        congr 1
        omega
  rw [inBase, hfold, Nat.zero_add]
  exact Nat.one_mul _

theorem unifyLines_of_not_mem {text : List Char} (h : '\r' ∉ text) : unifyLines text = text := by
  fun_induction unifyLines text with
  | case1 rest ih => simp at h
  | case2 c rest hc ih => rw [ih (List.not_mem_of_not_mem_cons h)]
  | case3 => rfl

theorem scalar_hexadecimal (n : Nat) :
    scalar ('0' :: 'x' :: List.replicate (n + 1) 'f')
      = .ok (.int (Nat.pow 16 (n + 1) - 1), []) := by
  have hnumber : based? ('0' :: 'x' :: List.replicate (n + 1) 'f')
      = some (inBase 16 (List.replicate (n + 1) 'f'), []) := by
    rw [based?]
    dsimp only
    rw [digitRun_replicate (by decide)]
    simp
  have hmoment : moment? ('0' :: 'x' :: List.replicate (n + 1) 'f') = none := rfl
  have htime : time? ('0' :: 'x' :: List.replicate (n + 1) 'f') = none := rfl
  rw [scalar, hmoment]
  dsimp only
  rw [htime, number?, hnumber]
  dsimp only
  have := inBase_replicate (n + 1)
  congr 3
  omega

/-- The line that sets the port to so many digits `f` in base sixteen, and one more. -/
def hexadecimalLine (n : Nat) : List Char :=
  'p' :: 'o' :: 'r' :: 't' :: '=' :: '0' :: 'x' :: List.replicate (n + 1) 'f'

theorem pair_hexadecimal (fuel n : Nat) :
    pair (fuel + 2) (hexadecimalLine n) = .ok ((["port"], .int (Nat.pow 16 (n + 1) - 1)), []) := by
  have hkey : readKey (hexadecimalLine n)
      = .ok (["port"], '=' :: '0' :: 'x' :: List.replicate (n + 1) 'f') := rfl
  have hvalue : value (fuel + 1) ('0' :: 'x' :: List.replicate (n + 1) 'f')
      = .ok (.int (Nat.pow 16 (n + 1) - 1), []) := by
    rw [← scalar_hexadecimal n]
    rfl
  have hblanks : skipBlanks ('0' :: 'x' :: List.replicate (n + 1) 'f')
      = '0' :: 'x' :: List.replicate (n + 1) 'f' := rfl
  rw [pair, hkey]
  simp only [Bind.bind, Except.bind, hblanks, hvalue]
  rfl

theorem statement_hexadecimal (n : Nat) :
    statement .empty (hexadecimalLine n)
      = .ok (⟨[("port", .int (Nat.pow 16 (n + 1) - 1))], .empty, []⟩, []) := by
  have hbare : (isBare 'p' || 'p' == '"' || 'p' == '\'') = true := by decide
  have hassign : Draft.empty.assign ["port"] (.int (Nat.pow 16 (n + 1) - 1)) []
      = .ok ⟨[("port", .int (Nat.pow 16 (n + 1) - 1))], .empty, []⟩ := rfl
  rw [hexadecimalLine, statement, if_pos hbare, ← hexadecimalLine, readPair, pair_hexadecimal]
  simp only [Bind.bind, Except.bind, hassign]
  rfl

/-- A statement that ends the document leaves the table that was read. -/
theorem statements_of_last {fuel : Nat} {d d' : Draft} {ahead rest : List Char} {c : Char}
    (hahead : skipBlanks ahead = c :: rest) (hc : c ≠ '\n')
    (h : statement d (c :: rest) = .ok (d', [])) : statements (fuel + 1) d ahead = .ok d'.root := by
  rw [statements, hahead]
  split
  · cases ‹c :: rest = []›
  · exact absurd (List.cons.inj ‹_›).1 hc
  · rw [h]
    rfl

/-- An integer in base sixteen may have any number of digits. -/
theorem parse_hexadecimal (n : Nat) :
    parse (hexadecimalLine n) = .ok [("port", .int (Nat.pow 16 (n + 1) - 1))] := by
  have hunify : unifyLines (hexadecimalLine n) = hexadecimalLine n :=
    unifyLines_of_not_mem (by simp [hexadecimalLine, List.mem_replicate])
  rw [parse, hunify, statements_of_last rfl (by decide) (statement_hexadecimal n)]

end SeedNode.Toml
