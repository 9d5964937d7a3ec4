import TokenTemplate.Evaluation.Expression

/-!
# Matching patterns

Whether a value matches a pattern, and what the names of the pattern stand for then,
`TokenTemplate.Scope.matchPattern`. Nothing is bound before the whole pattern has matched.
-/

namespace TokenTemplate

namespace Scope

/-- The value of a name and attributes. -/
def dottedValue (sc : Scope) (root : String) (path : List String) : Action Value := do
  let v ← Action.ofStore (sc.lookup root)
  path.foldlM Evaluator.attributeOf v

/-- The items of a value that can match a sequence pattern: texts cannot. -/
def sequenceItems? (s : Store) (v : Value) : Option (List Value) :=
  match v with
  | .range start stop step _ =>
    some ((List.range (rangeLength start stop step)).map fun i => .ofInt (rangeElement start step i))
  | v =>
    match s.objectOf? v with
    | some (.list _) | some (.tuple _) => some (s.rowOf v)
    | _ => none

/-- How many items a value has that can match a sequence pattern, without making them. -/
def sequenceLength? (s : Store) (v : Value) : Option Nat :=
  match v with
  | .range start stop step _ => some (rangeLength start stop step)
  | v => (sequenceItems? s v).map List.length

/-- Whether a part of a sequence pattern is starred. -/
def isStarredPart : Payload.Pattern → Bool
  | .starred _ => true
  | _ => false

/-- Whether a literal matches a value: the absent value and the truth values only match themselves. -/
def matchesLiteral (c : Payload.Constant) (v : Value) : Action Bool :=
  match c with
  | .none | .bool _ => return v == .ofConstant c
  | c => Action.ofStore (·.equal v (.ofConstant c))

/-- Whether an instance of a kind is itself its only part. -/
def isOwnPart : Kind → Bool
  | .bool | .int | .float | .text | .list | .tuple | .dict | .set => true
  | .other n => n == "bytes" || n == "bytearray" || n == "frozenset"
  | _ => false

/-- The value of a key of a mapping pattern. -/
def keyValue (sc : Scope) : Payload.Key → Action Value
  | .literal c => return .ofConstant c
  | .value root path => sc.dottedValue root path

/-- The values of some keys in a dictionary; nothing if one of them is missing. The keys have to be
different. -/
def lookupAll (id : Nat) (seen : List Value) : List Value → Action (Option (List Value))
  | [] => return some []
  | k :: ks => do
    Action.ofStore (·.needsKey k)
    if ← Action.ofStore fun s => Store.isAmong s.sameOrEqual k seen then Action.failWith .value
    else
      match ← Action.ofStore (·.lookup? id k) with
      | none => return none
      | some v => return (← lookupAll id (k :: seen) ks).map (v :: ·)

/-- The entries of a dictionary whose keys are not among some. -/
def entriesWithout (id : Nat) (keys : List Value) : Action (List (Value × Value)) :=
  Action.ofStore fun s =>
    (s.entries id).filterM fun p => do return !(← Store.isAmong s.sameOrEqual p.1 keys)

/-- The attributes of a value; nothing if one of them is missing. -/
def attributesOf (v : Value) : List String → Action (Option (List Value))
  | [] => return some []
  | n :: ns => do
    let w ← (some <$> Evaluator.attributeOf v n).recover fun e =>
      match e with
      | .raised ⟨.attribute, _⟩ => pure none
      | e => Action.fail e
    match w with
    | none => return none
    | some w => return (← attributesOf v ns).map (w :: ·)

mutual

/-- **What the names of a pattern stand for**, if a value matches it. -/
def matchPattern (sc : Scope) (v : Value) : Payload.Pattern → Action (Option Bindings)
  | .literal c => do return if ← matchesLiteral c v then some [] else none
  | .capture n => return some [(n, v)]
  | .wildcard => return some []
  | .value root path => do
    let w ← sc.dottedValue root path
    return if ← Action.ofStore (·.equal v w) then some [] else none
  | .sequence parts => do
    match ← Action.look (sequenceLength? · v) with
    | none => return none
    | some length =>
      let fixed := (parts.filter (!isStarredPart ·)).length
      if length < fixed || (fixed == parts.length && length != fixed) then return none
      else
        let items := (← Action.look (sequenceItems? · v)).getD []
        matchParts sc (length - fixed) items parts
  | .starred _ => return none
  | .mapping entries rest => do
    match v, ← Action.look (·.objectOf? v) with
    | .object id, some (.dict d) =>
      if d.length < entries.length then return none
      else
        let keys ← entries.mapM fun p => sc.keyValue p.1
        match ← lookupAll id [] keys with
        | none => return none
        | some values =>
          match ← matchEntries sc values entries, rest with
          | none, _ => return none
          | some b, none => return some b
          | some b, some n =>
            let left ← entriesWithout id keys
            return some (b ++ [(n, ← Action.new (.dict left))])
    | _, _ => return none
  | .typed root path parts attributes => do
    match ← sc.dottedValue root path with
    | .kind k =>
      if !(← Action.ofStore fun s => Evaluator.isOfKind s v 1 (.kind k)) then return none
      else if (if isOwnPart k then 1 else 0) < parts.length then Action.failWith .type
      else
        match ← attributesOf v (attributes.map (·.1)) with
        | none => return none
        | some values =>
          match ← matchParts sc 0 (parts.map fun _ => v) parts with
          | none => return none
          | some b => return (← matchAttributes sc values attributes).map (b ++ ·)
    | _ => Action.failWith .type
  | .alternatives ps => matchFirst sc v ps
  | .named p n => do return (← matchPattern sc v p).map (· ++ [(n, v)])

/-- Matches the parts of a sequence with items, of which a starred part takes `spare`. -/
def matchParts (sc : Scope) (spare : Nat) :
    List Value → List Payload.Pattern → Action (Option Bindings)
  | _, [] => return some []
  | items, .starred n :: ps => do
    let taken ← match n with
      | none => pure []
      | some n => do pure [(n, ← Action.new (.list (items.take spare).toArray))]
    return (← matchParts sc spare (items.drop spare) ps).map (taken ++ ·)
  | v :: items, p :: ps => do
    match ← matchPattern sc v p with
    | none => return none
    | some b => return (← matchParts sc spare items ps).map (b ++ ·)
  | [], _ :: _ => return none

/-- Matches the values of a mapping pattern. -/
def matchEntries (sc : Scope) :
    List Value → List (Payload.Key × Payload.Pattern) → Action (Option Bindings)
  | v :: vs, (_, p) :: rest => do
    match ← matchPattern sc v p with
    | none => return none
    | some b => return (← matchEntries sc vs rest).map (b ++ ·)
  | _, _ => return some []

/-- Matches the attributes of an instance. -/
def matchAttributes (sc : Scope) :
    List Value → List (String × Payload.Pattern) → Action (Option Bindings)
  | v :: vs, (_, p) :: rest => do
    match ← matchPattern sc v p with
    | none => return none
    | some b => return (← matchAttributes sc vs rest).map (b ++ ·)
  | _, _ => return some []

/-- Matches the first of some alternatives that does match. -/
def matchFirst (sc : Scope) (v : Value) : List Payload.Pattern → Action (Option Bindings)
  | [] => return none
  | p :: ps => do
    match ← matchPattern sc v p with
    | some b => return some b
    | none => matchFirst sc v ps

end

/-- Attributes are matched as the entries of a mapping pattern are, whatever their keys. -/
theorem matchAttributes_eq_matchEntries (sc : Scope) (k : Payload.Key) (values : List Value)
    (attributes : List (String × Payload.Pattern)) :
    sc.matchAttributes values attributes = sc.matchEntries values (attributes.map fun q => (k, q.2)) := by
  induction attributes generalizing values with
  | nil => cases values <;> rfl
  | cons q attributes ih =>
    cases values with
    | nil => rfl
    | cons v values =>
      rw [List.map_cons, matchAttributes, matchEntries]
      simp only [ih values]

/-- What holds of the patterns of some attributes holds of them as patterns of entries. -/
theorem forall_entries_of_attributes {P : Payload.Pattern → Prop} {attributes : List (String × Payload.Pattern)}
    (h : ∀ n p, (n, p) ∈ attributes → P p) {key : Payload.Key} (k : Payload.Key) (p : Payload.Pattern)
    (hp : (k, p) ∈ attributes.map fun q => (key, q.2)) : P p := by
  obtain ⟨q, hq, heq⟩ := List.mem_map.1 hp
  obtain ⟨-, rfl⟩ := Prod.mk.inj heq
  exact h q.1 q.2 hq

end Scope

end TokenTemplate
