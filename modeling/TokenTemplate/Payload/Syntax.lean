/-!
# Payload syntax

Payloads are written in an expression language of their own: `TokenTemplate.Payload.Expr` for what is
spliced, tested, looped over or matched, and `TokenTemplate.Payload.Pattern` for what a loop item or a
match subject is compared with. Both are given here as trees; how they are read is another matter.

A tree that opens a scope of its own lists the names that it binds: a function its parameters and what
its body assigns, a comprehension its loop names. So evaluation never has to search a tree for names.
-/

namespace TokenTemplate.Payload

/-! ### Leaves and operators -/

/-- The name that always stands for truth, whatever is bound, and that cannot be bound. -/
def fixedName : String :=
  "__debug__"

/-- A literal. -/
inductive Constant
  /-- The absent value. -/
  | none
  /-- A truth value. -/
  | bool (b : Bool)
  /-- A whole number. -/
  | int (n : Int)
  /-- A floating-point number. -/
  | float (x : Float)
  /-- A text. -/
  | text (s : String)
  /-- Three points. -/
  | ellipsis
  deriving DecidableEq, Repr, Inhabited

/-- An operator in front of one operand. -/
inductive UnaryOp
  /-- A plus sign. -/
  | plus
  /-- A minus sign. -/
  | minus
  /-- The complement of every bit. -/
  | invert
  /-- The negation of a truth value. -/
  | not
  deriving DecidableEq, Repr, Inhabited

/-- An operator between two operands that are both evaluated. -/
inductive BinaryOp
  /-- The sum. -/
  | add
  /-- The difference. -/
  | sub
  /-- The product. -/
  | mul
  /-- The quotient. -/
  | div
  /-- The quotient, rounded down. -/
  | floorDiv
  /-- The remainder, with the sign of the divisor. -/
  | mod
  /-- The power. -/
  | pow
  /-- The matrix product, which no value has. -/
  | matMul
  /-- The conjunction bit by bit, or the intersection. -/
  | and
  /-- The disjunction bit by bit, or the union. -/
  | or
  /-- The exclusive disjunction bit by bit, or the symmetric difference. -/
  | xor
  /-- The shift to the left. -/
  | shiftLeft
  /-- The shift to the right. -/
  | shiftRight
  deriving DecidableEq, Repr, Inhabited

/-- A comparison. -/
inductive CompareOp
  /-- Equal values. -/
  | equal
  /-- Different values. -/
  | notEqual
  /-- The left one is smaller. -/
  | less
  /-- The left one is smaller or equal. -/
  | lessEqual
  /-- The left one is greater. -/
  | greater
  /-- The left one is greater or equal. -/
  | greaterEqual
  /-- The left one is in the right one. -/
  | member
  /-- The left one is not in the right one. -/
  | notMember
  /-- One and the same object. -/
  | same
  /-- Two objects. -/
  | notSame
  deriving DecidableEq, Repr, Inhabited

/-- How arguments find a parameter. -/
inductive ParameterKind
  /-- By position only. -/
  | positional
  /-- By position or by name. -/
  | either
  /-- It takes the positions that are left. -/
  | rest
  /-- By name only. -/
  | keyword
  /-- It takes the names that are left. -/
  | keywordRest
  deriving DecidableEq, Repr, Inhabited

/-! ### Expressions -/

mutual

/-- An expression. -/
inductive Expr
  /-- A literal. -/
  | constant (c : Constant)
  /-- A name. -/
  | name (n : String)
  /-- A tuple of items, which may be starred. -/
  | tuple (items : List Expr)
  /-- A list of items, which may be starred. -/
  | list (items : List Expr)
  /-- A set of items, which may be starred. -/
  | set (items : List Expr)
  /-- A dictionary. -/
  | dict (entries : List Entry)
  /-- An item that stands for all elements of a value. -/
  | starred (e : Expr)
  /-- An operator in front of its operand. -/
  | unary (op : UnaryOp) (e : Expr)
  /-- An operator between its operands. -/
  | binary (op : BinaryOp) (l r : Expr)
  /-- The left operand if it is false, else the right one. -/
  | both (l r : Expr)
  /-- The left operand if it is true, else the right one. -/
  | either (l r : Expr)
  /-- A chain of comparisons, each operand evaluated once. -/
  | compare (first : Expr) (rest : List (CompareOp × Expr))
  /-- One of two expressions, as a test decides. -/
  | conditional (test yes no : Expr)
  /-- A value that also gets a name. -/
  | assign (n : String) (e : Expr)
  /-- An attribute of a value. -/
  | attribute (e : Expr) (n : String)
  /-- An element of a value. -/
  | index (e i : Expr)
  /-- A range of positions, as an index. -/
  | slice (low high step : Option Expr)
  /-- A call. -/
  | call (f : Expr) (arguments : List Argument)
  /-- A function, with the names that are its own. -/
  | lambda (parameters : List Parameter) (body : Expr) (own : List String)
  /-- What some clauses produce, with the names that are bound by them. -/
  | comprehension (form : Form) (element : Expr) (clauses : List Clause) (own : List String)

/-- An entry of a dictionary. -/
inductive Entry
  /-- A key and its value. -/
  | pair (k v : Expr)
  /-- All entries of another dictionary. -/
  | spread (e : Expr)

/-- An argument of a call. -/
inductive Argument
  /-- An argument by position, which may be starred. -/
  | positional (e : Expr)
  /-- An argument by name. -/
  | keyword (n : String) (e : Expr)
  /-- All entries of a dictionary as arguments by name. -/
  | spread (e : Expr)

/-- A parameter of a function. -/
inductive Parameter
  /-- Its name, how it is found, and what it is if it is not. -/
  | mk (n : String) (kind : ParameterKind) (default : Option Expr)

/-- What a comprehension makes of its elements. -/
inductive Form
  /-- A list. -/
  | list
  /-- A set. -/
  | set
  /-- Elements one by one, when they are asked for. -/
  | generator
  /-- A dictionary, whose keys are given apart. -/
  | dict (key : Expr)

/-- A clause of a comprehension. -/
inductive Clause
  /-- The target of each item of a source, and the conditions that it has to meet. -/
  | mk (target : Target) (source : Expr) (conditions : List Expr)

/-- What an item is assigned to. -/
inductive Target
  /-- A name. -/
  | name (n : String)
  /-- An attribute of a value. -/
  | attribute (e : Expr) (n : String)
  /-- An element of a value. -/
  | index (e i : Expr)
  /-- Targets for the parts of the item, of which one may be starred. -/
  | parts (targets : List Target)
  /-- A target for the parts that are left. -/
  | starred (t : Target)

end

instance : Inhabited Expr :=
  ⟨.constant .none⟩

/-- Whether an expression is starred. -/
def Expr.isStarred : Expr → Bool
  | .starred _ => true
  | _ => false

mutual

/-- Whether the value of an expression is known before anything runs. -/
def Expr.isConstant : Expr → Bool
  | .constant _ => true
  | .name n => n == fixedName
  | .tuple items => areConstant items
  | .unary _ e => e.isConstant
  | .binary _ l r => l.isConstant && r.isConstant
  | .index e i => e.isConstant && i.isConstant
  | _ => false

/-- Whether the values of some expressions are known before anything runs. -/
def Expr.areConstant : List Expr → Bool
  | [] => true
  | e :: es => e.isConstant && areConstant es

end

/-! ### Patterns -/

/-- A key of a mapping pattern. -/
inductive Key
  /-- A literal. -/
  | literal (c : Constant)
  /-- The value of a name and attributes. -/
  | value (root : String) (path : List String)
  deriving Repr, Inhabited

/-- A pattern. -/
inductive Pattern
  /-- What equals a literal; the absent value and the truth values only match themselves. -/
  | literal (c : Constant)
  /-- Anything, under a name. -/
  | capture (n : String)
  /-- Anything. -/
  | wildcard
  /-- What equals the value of a name and attributes. -/
  | value (root : String) (path : List String)
  /-- A sequence whose parts match, of which one may be starred. -/
  | sequence (parts : List Pattern)
  /-- The parts that are left, under a name if there is one. -/
  | starred (n : Option String)
  /-- A mapping whose values under some keys match, with a name for what is left if there is one. -/
  | mapping (entries : List (Key × Pattern)) (rest : Option String)
  /-- An instance of a type whose parts match. -/
  | typed (root : String) (path : List String) (parts : List Pattern)
      (attributes : List (String × Pattern))
  /-- What matches one of some patterns. -/
  | alternatives (ps : List Pattern)
  /-- What matches a pattern, under a name. -/
  | named (p : Pattern) (n : String)

instance : Inhabited Pattern :=
  ⟨.wildcard⟩

mutual

/-- Whether a pattern matches everything. -/
def Pattern.isIrrefutable : Pattern → Bool
  | .capture _ => true
  | .wildcard => true
  | .named p _ => p.isIrrefutable
  | .alternatives ps => Pattern.lastIsIrrefutable ps
  | _ => false

/-- Whether the last of some patterns matches everything. -/
def Pattern.lastIsIrrefutable : List Pattern → Bool
  | [] => false
  | [p] => p.isIrrefutable
  | _ :: ps => Pattern.lastIsIrrefutable ps

end

end TokenTemplate.Payload
