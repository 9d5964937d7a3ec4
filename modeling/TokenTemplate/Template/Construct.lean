import TokenTemplate.Template.Interpolation

/-!
# Constructs

What begins at a place of a template, `TokenTemplate.Construct`: a token by itself, a group, or one of
the things that a sigil begins. A sigil that begins nothing is a token like any other. Which construct
it is takes at most three tokens to see, and `TokenTemplate.Construct.sight` takes them all.
-/

namespace TokenTemplate

/-- What begins at a place of a template; spans are those of single tokens. -/
inductive Construct
  /-- Two sigils that touch, which stand for one. -/
  | escape (first second : Span)
  /-- An interpolation block, with the inside of its group. -/
  | block (start : Span) (inside : Region)
  /-- A directive, from its sigil and angle bracket to the closing one. -/
  | directive (start mark stop : Span) (w : Whitespace)
  /-- A name to splice. -/
  | name (start : Span) (leaf : Leaf)
  /-- A control construct or an expression to splice, with the inside of its group. -/
  | payload (start : Span) (inside : Region)
  /-- A group, with its inside. -/
  | group (d : Delimiter) (inside : Region)
  /-- A token by itself. -/
  | leaf (l : Leaf)

namespace Construct

/-- The construct of a token that a sigil has nothing to do with. -/
def plain (r : Region) : Tree → Construct
  | .leaf l => .leaf l
  | .group d children span => .group d (r.inside children span)

/-- The name and the closing angle bracket of a directive that begins with two given tokens. -/
def directiveRest (r : Region) (start mark : Span) : Except SyntaxError (Construct × Region) := do
  let (l, r) ← r.expectName
  match Whitespace.ofName? l.text with
  | none =>
    throw (r.errorAt (.unknownDirective l.text (Whitespace.all.map Whitespace.name)) l.span)
  | some w =>
    let (stop, r) ← r.expectPunct '>'
    return (.directive start mark stop.span w, r)

/-- **The construct that begins with a token**, and the region after it. -/
def sight (r : Region) (t : Tree) (ts : List Tree) : Except SyntaxError (Construct × Region) :=
  match ts with
  | u :: rest =>
    if !t.isPunct sigil then .ok (plain r t, r.goOn ts)
    else if u.isPunct sigil && t.touches u then .ok (.escape t.span u.span, r.goOn rest)
    else if u.isPunct '<' && t.touches u then directiveRest (r.goOn rest) t.span u.span
    else match u with
      | .leaf l =>
        if l.kind ≠ .name then .ok (plain r t, r.goOn ts)
        else match rest with
          | .group .parenthesis children span :: more =>
            if l.text = "_" then .ok (.block t.span (r.inside children span), r.goOn more)
            else .ok (.name t.span l, r.goOn rest)
          | _ => .ok (.name t.span l, r.goOn rest)
      | .group .parenthesis children span =>
        .ok (.payload t.span (r.inside children span), r.goOn rest)
      | .group .. => .ok (plain r t, r.goOn ts)
  | [] => .ok (plain r t, r.goOn ts)

/-! ### What a construct takes -/

theorem directiveRest_length {r : Region} {start mark : Span} {s : Construct × Region}
    (h : directiveRest r start mark = .ok s) : s.2.tokens.length < r.tokens.length := by
  unfold directiveRest Region.expectName at h
  split at h
  · next l ts hts =>
    split at h
    · simp only [bind, Except.bind] at h
      split at h
      · exact absurd h (by simp [throw, throwThe, MonadExceptOf.throw])
      · unfold Region.expectPunct Region.expect Region.goOn at h
        simp only at h
        split at h
        · simp at h
        · next hstep =>
          split at hstep
          · split at hstep
            · obtain rfl := Except.ok.inj hstep
              obtain rfl := Except.ok.inj h
              simp only [hts, List.length_cons]
              omega
            · simp at hstep
          · simp at hstep
    · simp [bind, Except.bind] at h
  · simp [bind, Except.bind] at h

/-- **Every construct takes a token.** -/
theorem sight_length_le {r : Region} {t : Tree} {ts : List Tree} {s : Construct × Region}
    (h : sight r t ts = .ok s) : s.2.tokens.length ≤ ts.length := by
  unfold sight at h
  split at h
  · next u rest =>
    repeat' split at h
    all_goals first
      | (obtain rfl := Except.ok.inj h; simp [Region.goOn])
      | (have hlt := directiveRest_length h
         simp only [Region.goOn, List.length_cons] at *
         omega)
    all_goals omega
  · obtain rfl := Except.ok.inj h
    simp [Region.goOn]

end Construct

end TokenTemplate
