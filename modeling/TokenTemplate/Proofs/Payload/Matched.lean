import TokenTemplate.Payload.PatternGrammar
import TokenTemplate.Proofs.Payload.Balance

/-!
# Expressions, patterns and brackets

Every reader of expressions takes tokens whose brackets match (`TokenTemplate.Payload.matched_grammar`), and so
does every reader of patterns, which moreover takes no `if` (`TokenTemplate.Payload.matched_pattern`). What
stands in brackets is taken up to the bracket that closes them:
`TokenTemplate.Payload.Grammar.closes_parenthesised`.
-/

namespace TokenTemplate.Payload

open Reader

/-! ### Expressions -/

/-- **Rules that take tokens with matching brackets.** -/
structure Grammar.Matched (g : Grammar) : Prop where
  /-- Any expression. -/
  expression : g.expression.Matched fun _ => True
  /-- An alternative. -/
  disjunction : g.disjunction.Matched fun _ => True
  /-- A negation or a comparison. -/
  inversion : g.inversion.Matched fun _ => True
  /-- An operand of a comparison. -/
  operand : g.operand.Matched fun _ => True
  /-- An operand with a sign. -/
  factor : g.factor.Matched fun _ => True
  /-- An atom with what is applied to it. -/
  primary : g.primary.Matched fun _ => True

namespace Grammar

/-- Expressions have tokens of all kinds. -/
abbrev anyToken : Token → Prop :=
  fun _ => True

theorem matched_extend_takesOneOf {α β : Type} {table : List (Token × β)} {step : α → β → Reader α}
    (htable : ∀ p ∈ table, shift? [] p.1 = some []) (hstep : ∀ x y, (step x y).Matched anyToken)
    (fuel : Nat) (x : α) : (extend (takesOneOf table) step fuel x).Matched anyToken :=
  (matched_takesOneOf fun p hp => ⟨trivial, htable p hp⟩).extend hstep fuel x

theorem matched_comparisonOp : comparisonOp.Matched anyToken := by
  intro s
  have htwo {t u : Token} (op : CompareOp) (ht : s.rest[0]? = some t) (hu : s.rest[1]? = some u)
      (htrack : track? [] [t, u] = some []) :
      Balances anyToken (Reader.skip 2 >>= fun _ => pure (some op)) s [] fun _ => [] := by
    obtain ⟨rest, hs⟩ : ∃ rest, s.rest = [t, u] ++ rest := by
      rcases hs : s.rest with _ | ⟨t', _ | ⟨u', rest⟩⟩
      · simp [hs] at ht
      · simp [hs] at hu
      · rw [hs] at ht hu
        exact ⟨rest, by rw [Option.some.inj ht, Option.some.inj hu]; rfl⟩
    exact .skip hs (fun _ _ => trivial) htrack fun s' => balances_pure _ s' fun _ => []
  refine .peek 0 (.peek 1 ?_)
  split
  · next ht hu => exact htwo .notMember ht hu rfl
  · next ht hu => exact htwo .notSame ht hu rfl
  · exact matched_takesOneOf (fun p hp => ⟨trivial, by revert p; decide⟩) s

/-- An atom, once its first token is known. -/
def atomFrom (g : Grammar) : Token → Reader Expr
  | .word "True" => return .constant (.bool true)
  | .word "False" => return .constant (.bool false)
  | .word "None" => return .constant .none
  | .word w => if keywords.contains w then failure else return .name w
  | .number c => return .constant c
  | .text x => return .constant (.text (x ++ (← textRun (← remaining))))
  | .mark "..." => return .constant .ellipsis
  | .mark "(" => g.parenthesised
  | .mark "[" => g.bracketed
  | .mark "\x7b" => g.braced
  | _ => failure

theorem atom_eq (g : Grammar) :
    g.atom = peek 0 >>= fun
      | none => failure
      | some t => skip 1 >>= fun _ => g.atomFrom t :=
  rfl

section Rules

variable {g : Grammar} (hg : g.Matched)

theorem matched_leftChain {ops : List (Token × BinaryOp)} {operand : Reader Expr}
    (hops : ∀ p ∈ ops, shift? [] p.1 = some []) (h : operand.Matched anyToken) :
    (leftChain ops operand).Matched anyToken := by
  refine h.bind fun first s => .remaining ?_
  exact matched_extend_takesOneOf hops (fun l op => h.bind fun r => matched_pure _) _ _ s

theorem matched_foldr_leftChain {tables : List (List (Token × BinaryOp))} {operand : Reader Expr}
    (htables : ∀ ops ∈ tables, ∀ p ∈ ops, shift? [] p.1 = some []) (h : operand.Matched anyToken) :
    (tables.foldr leftChain operand).Matched anyToken := by
  induction tables with
  | nil => exact h
  | cons ops tables ih =>
    rw [List.forall_mem_cons] at htables
    exact matched_leftChain htables.1 (ih htables.2)

include hg

/-! ### What stands inside brackets -/

theorem matched_named : g.named.Matched anyToken := by
  intro s
  refine .seesNameAnd ":=" (fun n rest _ hs => ?_) (hg.expression s)
  refine .skip hs (fun _ _ => trivial) rfl fun s' => ?_
  exact (hg.expression.bind fun e => (still_assigned n).matched.bind fun _ => matched_pure _) s'

theorem matched_item : g.item.Matched anyToken := by
  intro s
  refine .takes trivial rfl (fun s' => ?_) (matched_named hg s)
  exact (hg.operand.bind fun e => matched_pure _) s'

theorem matched_target : g.target.Matched anyToken := by
  intro s
  have hpart : Reader.Matched anyToken
      (do if ← takes (mark "*") then return .starred (← g.primary) else g.primary : Reader Expr) := by
    intro s
    refine .takes trivial rfl (fun s' => ?_) (hg.primary s)
    exact (hg.primary.bind fun e => matched_pure _) s'
  refine .remaining ((matched_commaList trivial _ hpart _).bind (fun r => Still.matched ?_) s)
  obtain ⟨es, comma⟩ := r
  match es with
  | [] => exact still_failure
  | [e] =>
    change Still (if comma then _ else if e.isStarred then failure else _)
    split
    · exact (still_lift _).map _
    · split
      · exact still_failure
      · exact still_lift _
  | _ :: _ :: _ => exact (still_lift _).map _

theorem matched_clause : g.clause.Matched anyToken := by
  intro s
  refine .takes trivial rfl (fun s' => ?_) (balances_pure none s fun _ => [])
  refine (matched_target hg s').bind fun t s => (balances_needs trivial rfl).bind fun _ s => ?_
  refine (still_get.balances s []).bind fun before s => (hg.disjunction s).bind fun source s => ?_
  refine (still_get.balances s []).bind fun now s => ?_
  have hconditions (fuel : Nat) : (extend (takesOneOf [(keyword "if", ())])
      (fun cs _ => do return cs ++ [← g.disjunction]) fuel []).Matched anyToken :=
    matched_extend_takesOneOf (by decide) (fun cs _ => hg.disjunction.bind fun c => matched_pure _) fuel []
  split
  · exact balances_failure
  · refine .remaining ((hconditions _ s).bind fun cs s => ?_)
    exact balances_pure _ s fun _ => []

theorem matched_comprehension (form : Form) (element : Expr) (before : Nat) :
    (g.comprehension form element before).Matched anyToken := by
  intro s
  refine .remaining (((matched_clause hg).extend (fun cs c => matched_pure _) _ _ s).bind ?_)
  refine fun clauses s => ?_
  refine ((still_boundSince before).balances s []).bind fun names s => ?_
  split
  · exact balances_failure
  · exact balances_pure _ s fun _ => []

/-- The rest of a display is read up to its bracket. -/
theorem closes_display (closer : String) (form : Form) (before : Nat) (first : Expr)
    {plain : List Expr → Bool → Reader Expr} (hplain : ∀ es comma, (plain es comma).Still) :
    (g.display closer form before first plain).Closes anyToken closer := by
  refine (still_sees _).matched.closes_bind fun isFor => ?_
  split
  · refine (matched_comprehension hg form first before).closes_bind fun e => ?_
    exact (closes_needs closer).bind_still fun _ => still_pure e
  refine (matched_takes trivial rfl).closes_bind fun comma => ?_
  split
  · exact (closes_closedList trivial (matched_item hg)).bind_still fun r => hplain _ _
  · exact (closes_needs closer).bind_still fun _ => hplain _ _

theorem balances_display {closer : String} (hshift : shift? [closer] (mark closer) = some [])
    (form : Form) (before : Nat) (first : Expr) {plain : List Expr → Bool → Reader Expr}
    (hplain : ∀ es comma, (plain es comma).Still) (s : ReadState) :
    (g.display closer form before first plain).Balances anyToken s [closer] fun _ => [] :=
  (closes_display hg closer form before first hplain).balances trivial hshift s

/-- **What stands in round brackets** is read up to the bracket that closes them. -/
theorem closes_parenthesised : g.parenthesised.Closes anyToken ")" := by
  refine .takes_bind (still_pure _) ?_
  refine still_boundCount.matched.closes_bind fun before => (matched_item hg).closes_bind fun first => ?_
  refine closes_display hg ")" .generator before first fun items comma => ?_
  split
  · exact still_pure _
  · split
    · exact still_failure
    · exact still_pure first

theorem balances_bracketed (s : ReadState) : g.bracketed.Balances anyToken s ["]"] fun _ => [] := by
  refine .takes trivial rfl (fun s' => balances_pure _ s' fun _ => []) ?_
  refine (still_boundCount.balances s ["]"]).bind fun before s => ?_
  refine ((matched_item hg).balances s ["]"]).bind fun first s => ?_
  exact balances_display hg rfl .list before first (fun items _ => still_pure _) s

theorem matched_entry : g.entry.Matched anyToken := by
  intro s
  refine .takes trivial rfl (fun s' => (hg.operand.bind fun e => matched_pure _) s') ?_
  refine (hg.expression s).bind fun k s => (balances_needs trivial rfl).bind fun _ s => ?_
  exact (hg.expression.bind fun v => matched_pure _) s

theorem balances_moreEntries (first : Entry) (s : ReadState) :
    (g.moreEntries first).Balances anyToken s ["\x7d"] fun _ => [] := by
  refine .takes trivial rfl (fun s' => ?_) ?_
  · exact ((closes_closedList trivial (matched_entry hg)).balances trivial rfl s').bind fun r s =>
      balances_pure _ s fun _ => []
  · exact (balances_needs trivial rfl).bind fun _ s => balances_pure _ s fun _ => []

theorem balances_braced (s : ReadState) : g.braced.Balances anyToken s ["\x7d"] fun _ => [] := by
  refine .takes trivial rfl (fun s' => balances_pure _ s' fun _ => []) ?_
  refine .takes trivial rfl (fun s' => ?_) ?_
  · exact (hg.operand.balances s' _).bind fun e s => balances_moreEntries hg _ s
  refine (still_boundCount.balances s _).bind fun before s => ?_
  refine ((still_seesNameAnd ":=").balances s _).bind fun single s => ?_
  refine ((matched_item hg).balances s _).bind fun first s => ?_
  have hset : (g.display "\x7d" .set before first fun items _ => return .set items).Balances anyToken s
      ["\x7d"] fun _ => [] :=
    balances_display hg rfl .set before first (fun items _ => still_pure _) s
  refine .sees (mark ":") (fun rest hs => ?_) ?_
  · dsimp only
    split
    · refine .skip_one hs trivial rfl fun s => (hg.expression.balances s _).bind fun value s => ?_
      refine ((still_sees _).balances s _).bind fun isFor s => ?_
      split
      · refine ((matched_comprehension hg _ value before).balances s _).bind fun e s => ?_
        exact (balances_needs trivial rfl).bind fun _ s => balances_pure e s fun _ => []
      · exact balances_moreEntries hg _ s
    · exact hset
  · rw [Bool.and_false, if_neg Bool.false_ne_true]
    exact hset

/-! ### Arguments and indices -/

theorem matched_argument (only : Bool) (phase : ArgumentPhase) (names : List String) :
    (g.argument only phase names).Matched anyToken := by
  intro s
  refine .takes trivial rfl (fun s => ?_) (.takes trivial rfl (fun s => ?_) ?_)
  · exact .unless fun _ => (hg.expression.bind fun e => matched_pure _) s
  · exact (hg.expression.bind fun e => matched_pure _) s
  refine .seesNameAnd "=" (fun n rest _ hs => .unless fun _ => ?_) (.unless fun _ => ?_)
  · refine .skip hs (fun _ _ => trivial) rfl fun s => ?_
    exact (hg.expression.bind fun e => matched_pure _) s
  · refine (still_boundCount.balances s _).bind fun before s => (matched_named hg s).bind fun e s => ?_
    refine ((still_sees _).balances s _).bind fun isFor s => ?_
    split
    · refine (matched_comprehension hg _ e before s).bind fun e s => ?_
      refine ((still_sees _).balances s _).bind fun isEnd s => .unless fun _ => balances_pure _ s fun _ => []
    · exact balances_pure _ s fun _ => []

theorem balances_argumentsFrom (fuel : Nat) (first : Bool) (phase : ArgumentPhase) (names : List String)
    (s : ReadState) :
    (g.argumentsFrom fuel first phase names).Balances anyToken s [")"] fun _ => [] := by
  induction fuel generalizing first phase names s with
  | zero => exact balances_failure
  | succ fuel ih =>
    refine .takes trivial rfl (fun s' => balances_pure _ s' fun _ => []) ?_
    refine ((matched_argument hg first phase names).balances s _).bind fun r s => ?_
    refine .takes trivial rfl (fun s => ?_) ?_
    · exact (ih _ _ _ s).bind fun args s => balances_pure _ s fun _ => []
    · exact (balances_needs trivial rfl).bind fun _ s => balances_pure _ s fun _ => []

theorem balances_arguments (s : ReadState) : g.arguments.Balances anyToken s [")"] fun _ => [] := by
  refine .remaining ((balances_argumentsFrom hg _ _ _ _ s).bind fun args s => ?_)
  exact balances_pure _ s fun _ => []

/-- One end of a slice, which may be left out. -/
theorem matched_slicePart : Reader.Matched anyToken (do
    match ← peek 0 with
    | some (.mark ":") | some (.mark ",") | some (.mark "]") => return none
    | _ => return some (← g.expression) : Reader (Option Expr)) := by
  intro s
  refine .peek 0 ?_
  split
  iterate 3 exact balances_pure _ s fun _ => []
  exact (hg.expression.bind fun e => matched_pure _) s

theorem matched_position : g.position.Matched anyToken := by
  intro s
  have hbound := matched_slicePart hg
  refine .takes trivial rfl (fun s => (hg.expression.bind fun e => matched_pure _) s) ?_
  refine ((still_seesNameAnd _).balances s _).bind fun o s => ?_
  split
  · exact matched_named hg s
  refine (hbound s).bind fun low s => .takes trivial rfl (fun s => (hbound s).bind fun high s => ?_) ?_
  · refine Matched.bind (fun s => ?_) (fun step => matched_pure _) s
    exact .takes trivial rfl (fun s => hbound s) (balances_pure none s fun _ => [])
  · cases low with
    | none => exact balances_failure
    | some e => exact balances_pure _ s fun _ => []

theorem balances_subscript (s : ReadState) : g.subscript.Balances anyToken s ["]"] fun _ => [] := by
  refine ((closes_closedList trivial (matched_position hg)).balances trivial rfl s).bind fun r s => ?_
  obtain ⟨es, comma⟩ := r
  match es with
  | [] => exact balances_failure
  | [e] => exact balances_pure _ s fun _ => []
  | _ :: _ :: _ => exact balances_pure _ s fun _ => []

/-! ### The ladder -/

theorem matched_atom : g.atom.Matched anyToken := by
  intro s
  rw [atom_eq]
  refine .peek 0 ?_
  cases hs : s.rest with
  | nil => exact balances_failure
  | cons t rest =>
    change Balances anyToken (skip 1 >>= fun _ => g.atomFrom t) s [] fun _ => []
    unfold atomFrom
    split
    iterate 3 exact .skip_one hs trivial rfl fun s => balances_pure _ s fun _ => []
    · refine .skip_one hs trivial rfl fun s => ?_
      split
      · exact balances_failure
      · exact balances_pure _ s fun _ => []
    · exact .skip_one hs trivial rfl fun s => balances_pure _ s fun _ => []
    · refine .skip_one hs trivial rfl fun s => .remaining ?_
      exact ((matched_textRun (fun _ => trivial) _).bind fun more => matched_pure _) s
    · exact .skip_one hs trivial rfl fun s => balances_pure _ s fun _ => []
    · exact .skip_one hs trivial rfl fun s =>
        (closes_parenthesised hg).balances trivial rfl s
    · exact .skip_one hs trivial rfl fun s => balances_bracketed hg s
    · exact .skip_one hs trivial rfl fun s => balances_braced hg s
    · exact fun _ _ hrun => absurd hrun nofun

/-- The mark that closes what a suffix opens, if it opens anything. -/
def Suffix.closers : Suffix → List String
  | .attribute => []
  | .call => [")"]
  | .index => ["]"]

theorem matched_primaryRule : g.primaryRule.Matched anyToken := by
  refine (matched_atom hg).bind fun first s => .remaining ?_
  refine matched_extend Suffix.closers (fun s => balances_takesOneOf _ fun p hp => ⟨trivial, ?_⟩) (fun e suffix s => ?_) _ _ s
  · rcases List.mem_cons.1 hp with rfl | hp
    · rfl
    rcases List.mem_cons.1 hp with rfl | hp
    · rfl
    obtain rfl := List.mem_singleton.1 hp
    rfl
  · rcases suffix with _ | _ | _
    · exact ((matched_name fun _ _ => trivial).bind fun n => matched_pure _) s
    · exact (balances_arguments hg s).bind fun args s => balances_pure _ s fun _ => []
    · exact (balances_subscript hg s).bind fun i s => balances_pure _ s fun _ => []

theorem matched_factorRule : g.factorRule.Matched anyToken := by
  refine (matched_takesOneOf fun p hp => ⟨trivial, by revert p; decide⟩).bind fun op => ?_
  cases op with
  | some op => exact hg.factor.bind fun e => matched_pure _
  | none =>
    refine (matched_primaryRule hg).bind fun base s => .takes trivial rfl (fun s' => ?_) ?_
    · exact (hg.factor.bind fun e => matched_pure _) s'
    · exact balances_pure base s fun _ => []

theorem matched_operandRule : g.operandRule.Matched anyToken :=
  matched_foldr_leftChain (by decide) (matched_factorRule hg)

theorem matched_comparison : g.comparison.Matched anyToken := by
  refine (matched_operandRule hg).bind fun first s => .remaining ?_
  refine (matched_comparisonOp.extend (fun cs op => ?_) _ _).bind (fun rest => matched_pure _) s
  exact (matched_operandRule hg).bind fun e => matched_pure _

theorem matched_inversionRule : g.inversionRule.Matched anyToken := by
  intro s
  refine .takes trivial rfl (fun s' => ?_) (matched_comparison hg s)
  exact (hg.inversion.bind fun e => matched_pure _) s'

theorem matched_conjunction : g.conjunction.Matched anyToken := by
  refine (matched_inversionRule hg).bind fun first s => .remaining ?_
  refine matched_extend_takesOneOf (by decide) (fun l _ => ?_) _ _ s
  exact (matched_inversionRule hg).bind fun r => matched_pure _

theorem matched_disjunctionRule : g.disjunctionRule.Matched anyToken := by
  refine (matched_conjunction hg).bind fun first s => .remaining ?_
  refine matched_extend_takesOneOf (by decide) (fun l _ => ?_) _ _ s
  exact (matched_conjunction hg).bind fun r => matched_pure _

theorem matched_parameterItem : g.parameterItem.Matched anyToken := by
  have hbinder : binder.Matched anyToken := matched_binder fun _ _ => trivial
  intro s
  refine .takes trivial rfl (fun s => balances_pure _ s fun _ => []) ?_
  refine .takes trivial rfl (fun s => (hbinder.bind fun n => matched_pure _) s) ?_
  refine .takes trivial rfl (fun s => .peek 0 ?_) ?_
  · split
    · exact (hbinder.bind fun n => matched_pure _) s
    · exact balances_pure _ s fun _ => []
  refine (hbinder s).bind fun n s => .takes trivial rfl (fun s => ?_) (balances_pure _ s fun _ => [])
  exact (hg.expression.bind fun e => matched_pure _) s

theorem matched_lambdaRule : g.lambdaRule.Matched anyToken := by
  intro s
  refine .remaining ((matched_commaList trivial _ (matched_parameterItem hg) _ s).bind fun r s => ?_)
  refine ((still_lift _).balances s _).bind fun parameters s => ?_
  refine (balances_needs trivial rfl).bind fun _ s => ?_
  exact ((matched_inScope hg.expression).bind fun r => matched_pure _) s

theorem matched_expressionRule : g.expressionRule.Matched anyToken := by
  intro s
  refine .takes trivial rfl (fun s' => matched_lambdaRule hg s') ?_
  refine (matched_disjunctionRule hg s).bind fun e s' => .takes trivial rfl (fun s'' => ?_) ?_
  · refine ((matched_disjunctionRule hg).bind fun test s => ?_) s''
    exact (balances_needs trivial rfl).bind fun _ s => (hg.expression.bind fun no => matched_pure _) s
  · exact balances_pure e s' fun _ => []

theorem matched_next : g.next.Matched where
  expression := matched_expressionRule hg
  disjunction := matched_disjunctionRule hg
  inversion := matched_inversionRule hg
  operand := matched_operandRule hg
  factor := matched_factorRule hg
  primary := matched_primaryRule hg

end Rules

end Grammar

/-- **Every reader of expressions takes tokens with matching brackets.** -/
theorem matched_grammar (depth : Nat) : (grammar depth).Matched := by
  induction depth with
  | zero => exact ⟨fun _ => balances_failure, fun _ => balances_failure, fun _ => balances_failure,
      fun _ => balances_failure, fun _ => balances_failure, fun _ => balances_failure⟩
  | succ depth ih => exact Grammar.matched_next ih

/-! ### Patterns -/

namespace PatternGrammar

/-- Patterns have no conditions. -/
abbrev noCondition : Token → Prop :=
  (· ≠ keyword "if")

theorem noCondition_word (w : String) (hw : w ∉ keywords) : noCondition (.word w) := by
  rintro heq
  obtain rfl := Token.word.inj heq
  exact hw (by decide)

theorem matched_name : name.Matched noCondition :=
  Reader.matched_name noCondition_word

theorem matched_signedNumber : signedNumber.Matched noCondition := by
  intro s
  refine .takes_bind (by decide) rfl (fun s => ?_) ?_
  all_goals
    refine .peek 0 ?_
    split
    · next hc =>
      obtain ⟨rest, hs⟩ := eq_cons_of_getElem? hc
      refine .skip_one hs nofun rfl fun s => ((still_sees _).balances s _).bind fun plus s => ?_
      refine ((still_sees _).balances s _).bind fun minus s => .unless fun _ => ?_
      split
      · exact (still_lift _).balances s _
      · exact balances_pure _ s fun _ => []
    · exact balances_failure

theorem matched_literal : literal.Matched noCondition := by
  intro s
  refine .peek 0 ?_
  have hconstant {t : Token} (c : Option Constant) (ht : s.rest[0]? = some t) (hallowed : noCondition t)
      (hshift : shift? [] t = some []) :
      Balances noCondition (skip 1 >>= fun _ => pure c) s [] fun _ => [] := by
    obtain ⟨rest, hs⟩ := eq_cons_of_getElem? ht
    exact .skip_one hs hallowed hshift fun s => balances_pure _ s fun _ => []
  split
  · next ht => exact hconstant _ ht (by decide) rfl
  · next ht => exact hconstant _ ht (by decide) rfl
  · next ht => exact hconstant _ ht (by decide) rfl
  · exact .remaining (((matched_textRun (fun _ => nofun) _).bind fun x => matched_pure _) s)
  · exact (matched_signedNumber.bind fun c => matched_pure _) s
  · exact (matched_signedNumber.bind fun c => matched_pure _) s
  · exact balances_pure _ s fun _ => []

theorem still_bindOnce (n : String) : (bindOnce n).Still := by
  exact still_get.bind fun s => .unless (still_bind n)

theorem matched_captureName : captureName.Matched noCondition := by
  refine matched_name.bind fun n s => .unless fun _ => ?_
  exact ((still_bindOnce n).matched.bind fun _ => matched_pure _) s

theorem matched_path : path.Matched noCondition := by
  intro s
  refine .remaining (Matched.extend ?_ (fun ns _ => matched_name.bind fun n => matched_pure _) _ _ s)
  exact matched_takesOneOf fun p hp => by revert p; decide

theorem still_sequence (parts : List Pattern) : (sequence parts).Still := by
  unfold sequence
  exact .unless (still_pure _)

theorem still_openSequence (parts : List Pattern) (comma : Bool) : (openSequence parts comma).Still := by
  unfold openSequence
  split
  · split
    · exact still_failure
    · exact still_pure _
  · exact still_sequence parts

theorem matched_key : key.Matched noCondition := by
  refine matched_literal.bind fun o => ?_
  cases o with
  | some c => exact matched_pure _
  | none =>
    refine matched_name.bind fun root => matched_path.bind fun ns => ?_
    cases ns with
    | nil => exact fun s => balances_failure
    | cons n ns => exact matched_pure _

theorem still_mapping (items : List ((Key × Pattern) ⊕ String)) : (mapping items).Still := by
  unfold mapping
  exact .unless (still_pure _)

theorem still_typed (root : String) (path : List String) (items : List (Pattern ⊕ (String × Pattern))) :
    (typed root path items).Still := by
  unfold typed
  exact .unless (still_pure _)

section Rules

variable {pattern : Reader Pattern} (h : pattern.Matched noCondition)
include h

theorem matched_part : (part pattern).Matched noCondition := by
  intro s
  refine .takes (by decide) rfl (fun s => ?_) (h s)
  refine .takes (by decide) rfl (fun s => balances_pure _ s fun _ => []) ?_
  exact (matched_captureName.bind fun n => matched_pure _) s

theorem matched_mappingItem : (mappingItem pattern).Matched noCondition := by
  intro s
  refine .takes (by decide) rfl (fun s => (matched_captureName.bind fun n => matched_pure _) s) ?_
  refine (matched_key s).bind fun k s => (balances_needs (by decide) rfl).bind fun _ s => ?_
  exact (h.bind fun p => matched_pure _) s

theorem matched_instanceItem : (instanceItem pattern).Matched noCondition := by
  intro s
  refine .seesNameAnd "=" (fun n rest hn hs => ?_) ((h.bind fun p => matched_pure _) s)
  refine .skip hs ?_ rfl fun s => (h.bind fun p => matched_pure _) s
  rw [List.forall_mem_cons, List.forall_mem_singleton]
  exact ⟨noCondition_word n hn, by decide⟩

/-- **A sequence in brackets** is read up to the bracket that closes them. -/
theorem closes_sequence (closer : String) : (closedList closer (part pattern)).Closes noCondition closer :=
  closes_closedList (by decide) (matched_part h)

theorem matched_namedPattern : (namedPattern pattern).Matched noCondition := by
  refine matched_name.bind fun n => ?_
  split
  · exact matched_pure _
  refine matched_path.bind fun ns s => .takes (by decide) rfl (fun s => ?_) ?_
  · refine ((closes_closedList (by decide) (matched_instanceItem h)).balances (by decide) rfl s).bind fun r s => ?_
    exact (still_typed n ns r.1).balances s _
  · split
    · refine ((still_sees _).balances s _).bind fun isField s => .unless fun _ => ?_
      exact ((still_bindOnce n).matched.bind fun _ => matched_pure _) s
    · exact balances_pure _ s fun _ => []

theorem matched_closed : (closed pattern).Matched noCondition := by
  intro s
  refine .takes (by decide) rfl (fun s => ?_) (.takes (by decide) rfl (fun s => ?_)
    (.takes (by decide) rfl (fun s => ?_) ?_))
  · exact ((closes_sequence h _).balances (by decide) rfl s).bind fun r s =>
      (still_openSequence r.1 r.2).balances s _
  · exact ((closes_sequence h _).balances (by decide) rfl s).bind fun r s =>
      (still_sequence r.1).balances s _
  · exact ((closes_closedList (by decide) (matched_mappingItem h)).balances (by decide) rfl s).bind fun r s =>
      (still_mapping r.1).balances s _
  · refine (matched_literal s).bind fun o s => ?_
    cases o with
    | some c => exact balances_pure _ s fun _ => []
    | none => exact matched_namedPattern h s

theorem matched_alternatives : (alternatives pattern).Matched noCondition := by
  have hset (bound : List String) : Still (modify fun s => { s with bound := bound }) :=
    still_modify fun _ => rfl
  refine still_get.matched.bind fun before => (matched_closed h).bind fun first => ?_
  refine (still_boundSince _).matched.bind fun names s => .remaining ?_
  refine (Matched.extend (matched_takesOneOf fun p hp => by revert p; decide) (fun ps _ => ?_) _ _ s).bind
    fun rest s => ?_
  · refine (hset before.bound).matched.bind fun _ => (matched_closed h).bind fun p s => ?_
    refine ((still_boundSince _).balances s _).bind fun others s => .unless fun _ => ?_
    exact balances_pure _ s fun _ => []
  · split
    · exact balances_pure _ s fun _ => []
    · refine .unless fun _ => ((hset _).matched.bind fun _ => matched_pure _) s

end Rules

end PatternGrammar

/-- **Every reader of patterns takes tokens with matching brackets**, and no `if`. -/
theorem matched_pattern (depth : Nat) :
    (PatternGrammar.pattern depth).Matched PatternGrammar.noCondition := by
  induction depth with
  | zero => exact fun s => balances_failure
  | succ depth ih =>
    refine (PatternGrammar.matched_alternatives ih).bind fun p s => ?_
    refine .takes (by decide) rfl (fun s => ?_) (balances_pure _ s fun _ => [])
    refine (PatternGrammar.matched_captureName s).bind fun n s => ?_
    refine ((still_sees _).balances s _).bind fun isPath s => ?_
    refine ((still_sees _).balances s _).bind fun isCall s => ?_
    refine ((still_sees _).balances s _).bind fun isField s => .unless fun _ => ?_
    exact balances_pure _ s fun _ => []

end TokenTemplate.Payload
