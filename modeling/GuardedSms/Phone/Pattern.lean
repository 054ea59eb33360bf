/-!
# Patterns

A pattern describes beginnings of a sequence. All ends that it can reach are listed in order of
preference: an earlier alternative before a later one, and more repetitions before fewer.
-/
namespace GuardedSms

inductive Pattern (τ : Type) where
  /-- Matches nothing at all. -/
  | never
  /-- Matches the empty beginning. -/
  | empty
  /-- Matches the end of the sequence. -/
  | atEnd
  | one (accepts : τ → Bool)
  | seq (p q : Pattern τ)
  | alt (p q : Pattern τ)
  /-- At least `least` times and up to `more` times after that. -/
  | times (p : Pattern τ) (least more : Nat)
  /-- Any number of elements of a class. -/
  | run (accepts : τ → Bool)
  /-- A part whose match is kept under a number. -/
  | group (number : Nat) (p : Pattern τ)

namespace Pattern

variable {τ : Type}

/-- What is left behind a match, and the matches of its groups, the latest first. -/
structure Match (τ : Type) where
  rest : List τ
  groups : List (Nat × List τ)

/-- The matches of a second part behind a first. -/
def Match.extend (m : Match τ) (step : List τ → List (Match τ)) : List (Match τ) :=
  (step m.rest).map fun n => ⟨n.rest, n.groups ++ m.groups⟩

def exactly (step : List τ → List (Match τ)) : Nat → List τ → List (Match τ)
  | 0, s => [⟨s, []⟩]
  | n + 1, s => (step s).flatMap (·.extend (exactly step n))

def upTo (step : List τ → List (Match τ)) : Nat → List τ → List (Match τ)
  | 0, s => [⟨s, []⟩]
  | n + 1, s => (step s).flatMap (·.extend (upTo step n)) ++ [⟨s, []⟩]

/-- What is left behind a run of accepted elements, the longest run first. -/
def runEnds (accepts : τ → Bool) : List τ → List (List τ)
  | [] => [[]]
  | x :: rest => if accepts x then runEnds accepts rest ++ [x :: rest] else [x :: rest]

/-- All matches at the front of a sequence in order of preference. -/
def ends : Pattern τ → List τ → List (Match τ)
  | never, _ => []
  | empty, s => [⟨s, []⟩]
  | atEnd, s => if s.isEmpty then [⟨s, []⟩] else []
  | one _, [] => []
  | one accepts, x :: rest => if accepts x then [⟨rest, []⟩] else []
  | seq p q, s => (p.ends s).flatMap (·.extend q.ends)
  | alt p q, s => p.ends s ++ q.ends s
  | times p least more, s => (exactly p.ends least s).flatMap (·.extend (upTo p.ends more))
  | run accepts, s => (runEnds accepts s).map (⟨·, []⟩)
  | group number p, s => (p.ends s).map fun m =>
      ⟨m.rest, (number, s.take (s.length - m.rest.length)) :: m.groups⟩

/-- The preferred match at the front. -/
def match? (p : Pattern τ) (s : List τ) : Option (Match τ) := (p.ends s).head?

/-- Whether a beginning of the sequence matches. -/
def matchesFront (p : Pattern τ) (s : List τ) : Bool := (p.match? s).isSome

/-- The preferred match at the first place where there is one, with what stands before it. -/
def search? (p : Pattern τ) (s : List τ) : Option (List τ × Match τ) :=
  match p.match? s, s with
  | some m, _ => some ([], m)
  | none, [] => none
  | none, x :: rest => (p.search? rest).map fun (before, m) => (x :: before, m)

/-- The highest number of a group. -/
def groupCount : Pattern τ → Nat
  | never | empty | atEnd | one _ | run _ => 0
  | seq p q | alt p q => max p.groupCount q.groupCount
  | times p _ _ => p.groupCount
  | group number p => max number p.groupCount

instance : Append (Pattern τ) := ⟨seq⟩
instance : OrElse (Pattern τ) := ⟨fun p q => alt p (q ())⟩

def optional (p : Pattern τ) : Pattern τ := times p 0 1

def oneOf [BEq τ] (members : List τ) : Pattern τ := one members.contains

/-- The given elements in order. -/
def word [BEq τ] (elements : List τ) : Pattern τ :=
  elements.foldr (fun x p => oneOf [x] ++ p) empty

end Pattern

end GuardedSms
