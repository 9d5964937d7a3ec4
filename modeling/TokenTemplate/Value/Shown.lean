import TokenTemplate.Number.Numeral
import TokenTemplate.Text.Quoted
import TokenTemplate.Value.Fault
import TokenTemplate.Value.Store

/-!
# The text of a value

A value is shown between brackets and quotes that say what it is, `TokenTemplate.Store.shown`, and the
parts of a value are always shown this way. Its text, `TokenTemplate.Store.textOf`, is the same but for
texts, which stand for themselves, and for receivers, which are laid out.

Whole numbers of more than 4300 digits are not written at all. A value that is part of itself is cut
short where it comes again.
-/

namespace TokenTemplate

/-! ### Parts of texts -/

/-- A whole number in decimal, unless it is too long. -/
def writtenInt (n : Int) : Except Fault String :=
  if n.natAbs < Nat.pow 10 4300 then .ok (toString n) else .error (.ofKind .value)

/-- The name of a mark for white space in capital letters. -/
def Whitespace.capitalName (w : Whitespace) : String :=
  String.ofList (w.name.toList.map Char.toUpper)

/-- The name of a mark for white space among its kind. -/
def Whitespace.qualifiedName (w : Whitespace) : String :=
  "Whitespace." ++ w.capitalName

/-- An item of a receiver as it is shown. -/
def Item.shown : Item → String
  | text s => Text.quoted s
  | space w => "<" ++ w.qualifiedName ++ ": " ++ Text.quoted w.name ++ ">"

/-- Texts with commas between them. -/
def commaSeparated (texts : List String) : String :=
  ", ".intercalate texts

/-- The name of a kind among others. -/
def Kind.partName (k : Kind) : String :=
  if k = .absent then "None" else k.name

/-- The name of an entry view. -/
def DictMethod.viewName : DictMethod → String
  | values => "dict_values"
  | items => "dict_items"
  | _ => "dict_keys"

/-- The name of an iterator over entries from the last one to the first one. -/
def DictMethod.reverseIteratorName : DictMethod → String
  | values => "dict_reversevalueiterator"
  | items => "dict_reverseitemiterator"
  | _ => "dict_reversekeyiterator"

namespace Store

/-! ### Kinds of values -/

/-- The kind of an iterator. -/
def iterationKind (s : Store) : Iteration → Kind
  | .row k _ => k
  | .forward (.range ..) _ => .other "range_iterator"
  | .forward .. => .other "list_iterator"
  | .backward (.object id) _ =>
    match s.object? id with
    | some (.list _) => .other "list_reverseiterator"
    | _ => .reversed
  | .backward (.range ..) _ => .other "range_iterator"
  | .backward .. => .reversed
  | .entries .values .. => .other "dict_valueiterator"
  | .entries .items .. => .other "dict_itemiterator"
  | .entries .. => .other "dict_keyiterator"
  | .numbered .. => .enumerate
  | .parallel .. => .zip
  | .calls .. => .other "callable_iterator"
  | .generation _ => .other "generator"

/-- **The kind of a value.** -/
def kindOf (s : Store) : Value → Kind
  | .none => .absent
  | .bool _ => .bool
  | .int .. => .int
  | .float .. => .float
  | .complex _ => .other "complex"
  | .text .. => .text
  | .single .ellipsis => .other "ellipsis"
  | .single .notImplemented => .other "NotImplementedType"
  | .single .standard => .other "module"
  | .range .. => .range
  | .space _ => .other "Whitespace"
  | .function _ => .other "builtin_function_or_method"
  | .kind _ => .kind
  | .receiver _ => .other "Tokens"
  | .object id =>
    match s.object? id with
    | some (.tuple _) => .tuple
    | some (.list _) => .list
    | some (.dict _) => .dict
    | some (.set _) => .set
    | some (.slice ..) => .other "slice"
    | some (.union _) => .other "UnionType"
    | some (.writer _) => .other "Into"
    | some (.record _) => .other "SimpleNamespace"
    | some (.template _) => .other "Template"
    | some (.probe _) => .other "function"
    | some (.method (.kind _) _) => .other "method_descriptor"
    | some (.method _ (.receiver _)) | some (.method _ (.template _)) => .other "method"
    | some (.method ..) => .other "builtin_function_or_method"
    | some (.closure ..) => .other "function"
    | some (.view part _) => .other part.viewName
    | some (.iterator i) => s.iterationKind i
    | some (.frame _) | none => .object

/-! ### Showing -/

/-- The text of a value in a list of parts that a value is being shown in, at most `fuel` of them. -/
def shownIn (s : Store) : (fuel : Nat) → (within : List Nat) → Value → Except Fault String
  | 0, _, _ => .error (.ofKind .recursion)
  | fuel + 1, within, v =>
    match v with
    | .none => .ok "None"
    | .bool b => .ok (if b then "True" else "False")
    | .int n _ => writtenInt n
    | .float x _ => .ok (Number.written x)
    | .complex a => .ok a.written
    | .text t _ => .ok (Text.quoted t)
    | .single .ellipsis => .ok "Ellipsis"
    | .single .notImplemented => .ok "NotImplemented"
    | .single .standard => .ok "<module 'builtins' (built-in)>"
    | .range start stop step _ => do
      let parts ← (if step = 1 then [start, stop] else [start, stop, step]).mapM writtenInt
      return "range(" ++ commaSeparated parts ++ ")"
    | .space w => .ok (Item.space w).shown
    | .function f => .ok ("<built-in function " ++ f.name ++ ">")
    | .kind k => .ok ("<class '" ++ k.name ++ "'>")
    | .receiver id => .ok ("Tokens([" ++ commaSeparated ((s.items id).map Item.shown) ++ "])")
    | .object id =>
      let again := within.contains id
      let part := s.shownIn fuel (id :: within)
      match s.object? id with
      | some (.tuple items) =>
        if again then .ok "(...)"
        else do
          match ← items.mapM part with
          | [t] => return "(" ++ t ++ ",)"
          | ts => return "(" ++ commaSeparated ts ++ ")"
      | some (.list items) =>
        if again then .ok "[...]"
        else do return "[" ++ commaSeparated (← items.toList.mapM part) ++ "]"
      | some (.dict entries) =>
        if again then .ok "\x7b...\x7d"
        else do
          let ts ← entries.mapM fun p => return (← part p.1) ++ ": " ++ (← part p.2)
          return "\x7b" ++ commaSeparated ts ++ "\x7d"
      | some (.set table) =>
        match table.toList with
        | [] => .ok "set()"
        | items => do return "\x7b" ++ commaSeparated (← items.mapM part) ++ "\x7d"
      | some (.slice low high step) => do
        return "slice(" ++ commaSeparated (← [low, high, step].mapM part) ++ ")"
      | some (.union kinds) => .ok (" | ".intercalate (kinds.map Kind.partName))
      | some (.writer _) => .ok "<into>"
      | some (.record fields) =>
        if again then .ok "namespace(...)"
        else do
          let ts ← fields.mapM fun p => return p.1 ++ "=" ++ (← part p.2)
          return "namespace(" ++ commaSeparated ts ++ ")"
      | some (.view kind dict) =>
        if again then .ok "..."
        else do
          let entries := match s.object? dict with
            | some (.dict entries) => entries
            | _ => []
          let ts ← entries.mapM fun p =>
            match kind with
            | .values => part p.2
            | .items => return "(" ++ (← part p.1) ++ ", " ++ (← part p.2) ++ ")"
            | _ => part p.1
          return kind.viewName ++ "([" ++ commaSeparated ts ++ "])"
      | _ => .ok ("<" ++ (s.kindOf v).name ++ " object>")

/-- How deep values can be nested in a store without being parts of themselves. -/
def depth (s : Store) : Nat :=
  s.objects.size + 1

/-- **How a value is shown.** -/
def shown (s : Store) (v : Value) : Except Fault String :=
  s.shownIn (s.depth + 1) [] v

/-- **The text of a value.** -/
def textOf (s : Store) (v : Value) : Except Fault String :=
  match v with
  | .text t _ => .ok t
  | .space w => .ok w.qualifiedName
  | .receiver id => .ok (Settings.format {} (s.items id))
  | v => s.shown v

end Store

end TokenTemplate
