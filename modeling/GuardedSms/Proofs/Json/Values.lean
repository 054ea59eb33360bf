import GuardedSms.Proofs.Json.Faults
import GuardedSms.Proofs.Json.Shapes

/-!
# What any value looks like

A text may hold more than the readers of payloads accept: floating point numbers, members in any
order, keys that are repeated. The relations here say which texts are values at all, whatever they
mean, and what an object looks like before its next key. The reader of shapes takes such texts
only, and a reader of members comes to a misfit only behind such a part of an object.

## Main definitions

* `NumberText`, `EndsNumber`: a number, and where it goes no further.
* `ValueText`: a value nested up to some depth.
* `Opened`: an object up to where a key may stand.
* `MisfitAt`: an object with a misfit behind one of its keys.

## Main statements

* `exists_of_readShape`: what is read down to its shape is a value.
* `readBehind_readMembers`: what is read as members is an object, and a misfit of one of them is
  found behind its key.
-/
namespace GuardedSms.Json

/-! ## Numbers -/

/-- Digits, at least one. -/
def DigitsText (ds : List Char) : Prop := ds ≠ [] ∧ ∀ c ∈ ds, isDigit c

/-- A point and the digits behind it, or nothing. -/
inductive FractionText : List Char → Prop
  | none : FractionText []
  | point {ds : List Char} (h : DigitsText ds) : FractionText ('.' :: ds)

inductive ExponentText : List Char → Prop
  | none : ExponentText []
  | mark {c : Char} {sign ds : List Char} (hc : c = 'e' ∨ c = 'E')
      (hs : sign = [] ∨ sign = ['+'] ∨ sign = ['-']) (h : DigitsText ds) :
      ExponentText (c :: (sign ++ ds))

/-- A number, without superfluous zeros in front. -/
inductive NumberText : List Char → Prop
  | parts {sign fraction exponent : List Char} (n : Nat) (hs : sign = [] ∨ sign = ['-'])
      (hf : FractionText fraction) (he : ExponentText exponent) :
      NumberText (sign ++ (Nat.toDigits 10 n ++ (fraction ++ exponent)))

/-- A number holds an exponent if it holds its mark. -/
def HasExponent (w : List Char) : Prop := 'e' ∈ w ∨ 'E' ∈ w

/-- A number goes no further: not with a digit, not with a point unless it has passed that place,
and not with an exponent unless it has one. -/
def EndsNumber (w rest : List Char) : Prop :=
  ∀ c ∈ rest.head?, isDigit c = false ∧ (c = '.' → '.' ∈ w ∨ HasExponent w) ∧
    (c = 'e' ∨ c = 'E' → HasExponent w)

theorem HasExponent.behind {w : List Char} (h : HasExponent w) (front : List Char) :
    HasExponent (front ++ w) :=
  h.imp (List.mem_append_right front) (List.mem_append_right front)

theorem EndsNumber.behind {w rest : List Char} (h : EndsNumber w rest) (front : List Char) :
    EndsNumber (front ++ w) rest := by
  intro c mem
  obtain ⟨noDigit, point, mark⟩ := h c mem
  exact ⟨noDigit, fun isPoint => (point isPoint).imp (List.mem_append_right front) (·.behind front),
    fun isMark => (mark isMark).behind front⟩

/-- Digits are read as far as they go. -/
theorem ends_of_readDigits {cs ds rest : List Char} (h : readDigits cs = .ok (ds, rest)) :
    ∀ c ∈ rest.head?, isDigit c = false := by
  have stops : ∀ c ∈ (cs.dropWhile isDigit).head?, isDigit c = false := by
    intro c mem
    have := List.head?_dropWhile_not isDigit cs
    simp_all
  rw [readDigits, spanDigits, List.span_eq_takeWhile_dropWhile] at h
  split at h
  · contradiction
  · contradiction
  · rename_i same
    obtain ⟨-, rfl⟩ := Prod.mk.inj same
    obtain ⟨-, rfl⟩ : _ ∧ cs.dropWhile isDigit = rest := by simpa using h
    exact stops

theorem digitsText_of_readDigits {cs ds rest : List Char} (h : readDigits cs = .ok (ds, rest)) :
    DigitsText ds ∧ cs = ds ++ rest := by
  obtain ⟨split, nonempty, digits⟩ := exists_of_readDigits h
  exact ⟨⟨nonempty, digits⟩, split⟩

theorem ends_of_readWhole {cs ds rest : List Char} (h : readWhole cs = .ok (ds, rest)) :
    ∀ c ∈ rest.head?, isDigit c = false := by
  obtain ⟨⟨ds', left⟩, read, done⟩ := bind_eq_ok_iff.mp h
  dsimp only at done
  split at done
  · contradiction
  · obtain ⟨-, rfl⟩ : ds' = ds ∧ left = rest := by simpa using done
    exact ends_of_readDigits read

/-- Behind the digits in front of the point stands a fraction, or nothing of it. -/
theorem exists_of_readFraction {cs rest : List Char} {digits : Option (List Char)}
    (h : readFraction cs = .ok (digits, rest)) :
    ∃ w, FractionText w ∧ cs = w ++ rest ∧
      (w = [] ∧ rest.head? ≠ some '.' ∨ '.' ∈ w ∧ ∀ c ∈ rest.head?, isDigit c = false) := by
  unfold readFraction at h
  split at h
  · obtain ⟨⟨ds, left⟩, read, done⟩ := bind_eq_ok_iff.mp h
    obtain ⟨-, rfl⟩ : some ds = digits ∧ left = rest := by simpa using done
    obtain ⟨spelt, rfl⟩ := digitsText_of_readDigits read
    exact ⟨_, .point spelt, rfl, .inr ⟨List.mem_cons_self, ends_of_readDigits read⟩⟩
  · rename_i noPoint
    obtain ⟨-, rfl⟩ : none = digits ∧ cs = rest := by simpa using h
    refine ⟨[], .none, rfl, .inl ⟨rfl, ?_⟩⟩
    intro point
    obtain ⟨t, rfl⟩ := List.head?_eq_some_iff.mp point
    exact noPoint t rfl

theorem exists_of_readSign (cs : List Char) :
    ∃ sign, (sign = [] ∨ sign = ['+'] ∨ sign = ['-']) ∧ cs = sign ++ (readSign cs).2 := by
  unfold readSign
  split
  · exact ⟨['+'], .inr (.inl rfl), rfl⟩
  · exact ⟨['-'], .inr (.inr rfl), rfl⟩
  · exact ⟨[], .inl rfl, rfl⟩

theorem exists_of_readExponent {cs rest : List Char} {power : Option Int}
    (h : readExponent cs = .ok (power, rest)) :
    ∃ w, ExponentText w ∧ cs = w ++ rest ∧
      (w = [] ∧ (∀ c ∈ rest.head?, c ≠ 'e' ∧ c ≠ 'E') ∨
        HasExponent w ∧ ∀ c ∈ rest.head?, isDigit c = false) := by
  unfold readExponent at h
  split at h
  · rename_i c behind
    split at h
    · rename_i marked
      obtain ⟨⟨ds, left⟩, read, done⟩ := bind_eq_ok_iff.mp h
      replace read : readDigits (readSign behind).2 = .ok (ds, left) := read
      obtain ⟨-, rfl⟩ : _ = power ∧ left = rest := by simpa using done
      obtain ⟨sign, signs, split⟩ := exists_of_readSign behind
      obtain ⟨spelt, split'⟩ := digitsText_of_readDigits read
      refine ⟨c :: (sign ++ ds), .mark marked signs spelt, ?_, .inr ⟨?_, ends_of_readDigits read⟩⟩
      · rw [split, split']
        simp
      · obtain rfl | rfl := marked <;> simp [HasExponent]
    · rename_i unmarked
      obtain ⟨-, rfl⟩ : none = power ∧ c :: behind = rest := by simpa using h
      refine ⟨[], .none, rfl, .inl ⟨rfl, ?_⟩⟩
      simpa using unmarked
  · obtain ⟨-, rfl⟩ : none = power ∧ [] = rest := by simpa using h
    exact ⟨[], .none, rfl, .inl ⟨rfl, by simp⟩⟩

/-- What is read as a numeral is a number, which goes no further. -/
theorem numberText_of_readNumeral {negative : Bool} {s : Shape} {cs rest : List Char}
    (h : readNumeral negative cs = .ok (s, rest)) :
    ∃ w, NumberText ((if negative then ['-'] else []) ++ w) ∧ EndsNumber w rest ∧
      cs = w ++ rest := by
  obtain ⟨⟨whole, behindWhole⟩, first, later⟩ := bind_eq_ok_iff.mp h
  obtain ⟨⟨digits, behindFraction⟩, second, later'⟩ := bind_eq_ok_iff.mp later
  obtain ⟨⟨power, behindExponent⟩, third, done⟩ := bind_eq_ok_iff.mp later'
  obtain rfl : behindExponent = rest := by
    dsimp only at done
    split at done
    · exact (Prod.mk.inj (Except.ok.inj done)).2
    · contradiction
  have endsWhole := ends_of_readWhole first
  obtain ⟨spelt, rfl⟩ := exists_of_readWhole first
  obtain ⟨fraction, isFraction, rfl, endsFraction⟩ := exists_of_readFraction second
  obtain ⟨exponent, isExponent, rfl, endsExponent⟩ := exists_of_readExponent third
  have sign : (if negative then ['-'] else []) = [] ∨
      (if negative then ['-'] else []) = ['-'] := by cases negative <;> simp
  refine ⟨whole ++ (fraction ++ exponent), ?number, ?ends, by simp⟩
  case number =>
    rw [spelt]
    exact .parts _ sign isFraction isExponent
  case ends =>
    refine EndsNumber.behind ?_ whole
    intro c mem
    obtain ⟨rfl, noMark⟩ | ⟨marked, noDigit⟩ := endsExponent
    · have noExponent : ¬ (c = 'e' ∨ c = 'E') := not_or.mpr (noMark c mem)
      obtain ⟨rfl, noPoint⟩ | ⟨pointed, noDigit⟩ := endsFraction
      · refine ⟨endsWhole c mem, ?_, fun mark => absurd mark noExponent⟩
        rintro rfl
        exact absurd mem noPoint
      · exact ⟨noDigit c mem, fun _ => .inl (List.mem_append_left [] pointed),
          fun mark => absurd mark noExponent⟩
    · have passed := marked.behind fraction
      exact ⟨noDigit c mem, fun _ => .inr passed, fun _ => passed⟩

/-! ## Scalars -/

/-- Text of a value that is neither an array nor an object. -/
inductive ScalarText : List Char → Prop
  | null : ScalarText nullWord
  | bool (b : Bool) : ScalarText (boolWord b)
  | number {w : List Char} (h : NumberText w) : ScalarText w
  | text {s : String} {w : List Char} (h : TextSpelling s w) : ScalarText w

theorem WordSpelling.scalarText {s : Shape} {w : List Char} (h : WordSpelling s w) :
    ScalarText w := by
  cases h with
  | null => exact .null
  | bool b => exact .bool b
  | string h => exact .text h

/-- What is read as a value is a scalar, or what is read behind an opening bracket or brace. -/
theorem scalarText_of_readValue {array object : Reader Shape} {s : Shape} {cs rest : List Char}
    (h : readValue array object cs = .ok (s, rest)) :
    (∃ w, ScalarText w ∧ skipBlanks cs = w ++ rest) ∨
      (∃ left, skipBlanks cs = '[' :: left ∧ array left = .ok (s, rest)) ∨
      ∃ left, skipBlanks cs = '{' :: left ∧ object left = .ok (s, rest) := by
  obtain ⟨w, spelt, front⟩ | ⟨negative, left, front, read⟩ | array | object := cases_of_readValue h
  · exact .inl ⟨w, spelt.scalarText, front⟩
  · obtain ⟨w, number, -, rfl⟩ := numberText_of_readNumeral read
    exact .inl ⟨_, .number number, by rw [front, List.append_assoc]⟩
  · exact .inr (.inl array)
  · exact .inr (.inr object)

/-! ## Objects -/

section Members

/-- A member: its key and its value, with blanks around the colon. -/
inductive MemberText (value : List Char → Prop) (key : String) : List Char → Prop
  | colon {k b b' v : List Char} (hk : TextSpelling key k) (before : Blanks b) (after : Blanks b')
      (hv : value v) : MemberText value key (k ++ (b ++ ':' :: (b' ++ v)))

/-- An object up to where a key may stand, with the keys before. -/
inductive Opened (value : List Char → Prop) : List String → List Char → Prop
  | brace {b : List Char} (blanks : Blanks b) : Opened value [] ('{' :: b)
  | comma {keys : List String} {key : String} {p m b b' : List Char} (front : Opened value keys p)
      (h : MemberText value key m) (before : Blanks b) (after : Blanks b') :
      Opened value (keys ++ [key]) (p ++ (m ++ (b ++ ',' :: b')))

/-- An object: members between braces, with commas between them and none at the end. -/
inductive ObjectText (value : List Char → Prop) : List Char → Prop
  | empty {b : List Char} (blanks : Blanks b) : ObjectText value ('{' :: (b ++ ['}']))
  | members {keys : List String} {key : String} {p m b : List Char} (front : Opened value keys p)
      (h : MemberText value key m) (blanks : Blanks b) :
      ObjectText value (p ++ (m ++ (b ++ ['}'])))

variable {σ : Type} {value : List Char → Prop} {member : σ → String → Reader σ}

/-- A reader of members takes values behind their colons. -/
def TakesValues (value : List Char → Prop) (member : σ → String → Reader σ) : Prop :=
  ∀ {s key cs s' rest}, member s key cs = .ok (s', rest) →
    ∃ b b' v, Blanks b ∧ Blanks b' ∧ value v ∧ cs = b ++ ':' :: (b' ++ (v ++ rest))

/-- An object with a misfit behind one of its keys. What is known there of the state that the
members before have led to is left open. -/
inductive MisfitAt (value : List Char → Prop) (member : σ → String → Reader σ)
    (reached : List String → σ → Prop) (misfit : Misfit) : List Char → Prop
  | key {keys : List String} {key : String} {p k left : List Char} {s : σ}
      (front : Opened value keys p) (hk : TextSpelling key k) (state : reached keys s)
      (refused : member s key left = .error (.unfit misfit)) :
      MisfitAt value member reached misfit (p ++ (k ++ left))

theorem exists_of_readKeyed (takes : TakesValues value member) {s s' : σ} {cs rest : List Char}
    (h : readKeyed member s cs = .ok (s', rest)) :
    ∃ key m left, MemberText value key ('"' :: m) ∧ cs = m ++ rest ∧
      member s key left = .ok (s', rest) := by
  obtain ⟨⟨key, left⟩, read, taken⟩ := bind_eq_ok_iff.mp h
  obtain ⟨k, spelt, rfl⟩ := readString_eq_ok_iff.mp read
  obtain ⟨b, b', v, before, after, isValue, split⟩ := takes taken
  refine ⟨key, k ++ (b ++ ':' :: (b' ++ v)), left, .colon spelt before after isValue, ?_, taken⟩
  rw [split]
  simp

/-- A misfit of a member is found behind its key. -/
theorem exists_misfit_of_readKeyed {s : σ} {cs : List Char} {misfit : Misfit}
    (h : readKeyed member s cs = .error (.unfit misfit)) :
    ∃ key k left, TextSpelling key ('"' :: k) ∧ cs = k ++ left ∧
      member s key left = .error (.unfit misfit) := by
  unfold readKeyed at h
  cases read : readString cs with
  | error fault =>
    obtain rfl : fault = .unfit misfit := by simpa [read] using h
    exact absurd read (noMisfit_readString cs misfit)
  | ok p =>
    obtain ⟨key, left⟩ := p
    obtain ⟨k, spelt, rfl⟩ := readString_eq_ok_iff.mp read
    exact ⟨key, k, left, spelt, rfl, by simpa [read] using h⟩

/-- What is read behind a part of an object: the rest of the object, or a misfit behind a key. -/
def ReadBehind (value : List Char → Prop) (member : σ → String → Reader σ)
    (reached : List String → σ → Prop) (p cs : List Char) : Except Fault (σ × List Char) → Prop
  | .ok (_, rest) => ∃ w, ObjectText value (p ++ w) ∧ cs = w ++ rest
  | .error (.unfit misfit) => MisfitAt value member reached misfit (p ++ cs)
  | .error _ => True

variable {reached : List String → σ → Prop}

theorem ReadBehind.sooner {p q cs : List Char} {read : Except Fault (σ × List Char)}
    (h : ReadBehind value member reached (p ++ q) cs read) :
    ReadBehind value member reached p (q ++ cs) read := by
  match read with
  | .ok (_, rest) =>
    obtain ⟨w, object, rfl⟩ := h
    exact ⟨q ++ w, by rwa [← List.append_assoc], by rw [List.append_assoc]⟩
  | .error (.unfit misfit) => simpa [ReadBehind] using h
  | .error .endOfText | .error .malformed => trivial

/-- A member behind a part of an object, and what is read then. -/
theorem readBehind_readKeyed (takes : TakesValues value member) {keys : List String}
    {p : List Char} (front : Opened value keys p) {s : σ} (state : reached keys s)
    (left : List Char) (next : σ × List Char → Except Fault (σ × List Char))
    (later : ∀ {key m s' rest left}, MemberText value key m → member s key left = .ok (s', rest) →
      ReadBehind value member reached (p ++ m) rest (next (s', rest))) :
    ReadBehind value member reached p ('"' :: left) (readKeyed member s left >>= next) := by
  cases keyed : readKeyed member s left with
  | error fault =>
    cases fault with
    | endOfText | malformed => trivial
    | unfit misfit =>
      obtain ⟨key, k, behind, spelt, rfl, refused⟩ := exists_misfit_of_readKeyed keyed
      exact .key front spelt state refused
  | ok q =>
    obtain ⟨s', rest⟩ := q
    obtain ⟨key, m, behind, isMember, rfl, taken⟩ := exists_of_readKeyed takes keyed
    exact (later isMember taken).sooner

variable (takes : TakesValues value member)
variable (moves : ∀ {keys : List String} {s key cs s' rest}, reached keys s →
  member s key cs = .ok (s', rest) → reached (keys ++ [key]) s')

include takes moves

/-- Behind a member the rest of an object is read. -/
theorem readBehind_readMoreMembers (fuel : Nat) {s : σ} (cs : List Char) {keys : List String}
    {key : String} {p m : List Char} (front : Opened value keys p) (last : MemberText value key m)
    (state : reached (keys ++ [key]) s) :
    ReadBehind value member reached (p ++ m) cs (readMoreMembers member fuel s cs) := by
  -- The induction is on the fuel, and in each round the part in front grows by a member.
  induction fuel generalizing s cs keys key p m with
  | zero => trivial
  | succ fuel ih =>
    obtain ⟨b, blanks, split⟩ := exists_blanks cs
    rw [readMoreMembers]
    split
    · trivial
    · rename_i left closing
      rw [closing] at split
      exact ⟨b ++ ['}'], by simpa using .members front last blanks, by rw [split]; simp⟩
    · rename_i behind comma
      obtain ⟨b', blanks', split'⟩ := exists_blanks behind
      split
      · trivial
      · rename_i left quote
        rw [comma, split', quote] at split
        have opened := Opened.comma front last blanks blanks'
        have read := readBehind_readKeyed takes opened state left
          (fun q => readMoreMembers member fuel q.1 q.2)
          fun isMember taken => ih _ opened isMember (moves state taken)
        rw [readKeyed, bind_assoc, ← List.append_assoc] at read
        rw [split]
        simpa using read.sooner
      · trivial
    · trivial

/-- Behind an opening brace an object is read, or a misfit behind a key. -/
theorem readBehind_readMembers {s : σ} (start : reached [] s) (cs : List Char) :
    ReadBehind value member reached ['{'] cs (readMembers member s cs) := by
  obtain ⟨b, blanks, split⟩ := exists_blanks cs
  rw [readMembers]
  split
  · trivial
  · rename_i left closing
    rw [closing] at split
    exact ⟨b ++ ['}'], .empty blanks, by rw [split]; simp⟩
  · rename_i left quote
    rw [quote] at split
    have opened : Opened value [] ('{' :: b) := .brace blanks
    have read := readBehind_readKeyed takes opened start left
      (fun q => readMoreMembers member q.2.length q.1 q.2)
      fun isMember taken =>
        readBehind_readMoreMembers takes moves _ _ opened isMember (moves start taken)
    rw [readKeyed, bind_assoc] at read
    rw [split]
    exact read.sooner
  · trivial

end Members

/-! ## Values -/

/-- An array of such values, whatever their shapes. -/
def ArrayText (value : List Char → Prop) (w : List Char) : Prop :=
  ∃ shapes : List Shape, ListSpelling (fun _ => value) shapes w

/-- A value in which arrays and objects are nested up to some depth. -/
def ValueText : (nesting : Nat) → List Char → Prop
  | 0, w => ScalarText w
  | n + 1, w => ScalarText w ∨ ArrayText (ValueText n) w ∨ ObjectText (ValueText n) w

theorem ScalarText.valueText {w : List Char} (h : ScalarText w) (n : Nat) : ValueText n w := by
  cases n with
  | zero => exact h
  | succ n => exact .inl h

/-- Behind its colon a value is taken that is read soundly. -/
theorem takes_readColon {α : Type} {value : List Char → Prop} {r : Reader α}
    (sound : ∀ {cs a rest}, r cs = .ok (a, rest) → ∃ w, value w ∧ skipBlanks cs = w ++ rest)
    {cs rest : List Char} {a : α} (h : (readColon cs >>= r) = .ok (a, rest)) :
    ∃ b b' v, Blanks b ∧ Blanks b' ∧ value v ∧ cs = b ++ ':' :: (b' ++ (v ++ rest)) := by
  obtain ⟨left, colon, read⟩ := bind_eq_ok_iff.mp h
  obtain ⟨b, before, rfl⟩ := exists_of_readColon colon
  obtain ⟨v, isValue, front⟩ := sound read
  obtain ⟨b', after, split⟩ := exists_blanks left
  exact ⟨b, b', v, before, after, isValue, by rw [← front, ← split]⟩

/-- What is read down to its shape is a value that is nested no deeper than the budget allows. -/
theorem exists_of_readShape {budget : Nat} {s : Shape} {cs rest : List Char}
    (h : readShape budget cs = .ok (s, rest)) :
    ∃ w, ValueText budget w ∧ skipBlanks cs = w ++ rest := by
  -- The induction is on the budget, of which an array or object leaves one less to its parts.
  induction budget generalizing s cs rest with
  | zero =>
    obtain scalar | ⟨_, -, none⟩ | ⟨_, -, none⟩ := scalarText_of_readValue h
    · exact scalar
    · contradiction
    · contradiction
  | succ budget ih =>
    obtain ⟨w, scalar, front⟩ | ⟨left, front, array⟩ | ⟨left, front, object⟩ :=
      scalarText_of_readValue h
    · exact ⟨w, scalar.valueText _, front⟩
    · obtain ⟨⟨shapes, behind⟩, items, done⟩ := bind_eq_ok_iff.mp array
      obtain ⟨rfl, rfl⟩ : Shape.sequence = s ∧ behind = rest := by simpa using done
      have sound : ∀ {cs s rest}, readShape budget cs = .ok (s, rest) →
          ∃ w, (fun _ => ValueText budget : Spelling Shape) s w ∧ skipBlanks cs = w ++ rest := ih
      obtain ⟨w, spelt, rfl⟩ := exists_of_readItems sound items
      exact ⟨'[' :: w, .inr (.inl ⟨shapes, spelt⟩), front⟩
    · obtain ⟨⟨_, behind⟩, members, done⟩ := bind_eq_ok_iff.mp object
      obtain ⟨rfl, rfl⟩ : Shape.map = s ∧ behind = rest := by simpa using done
      have takes : TakesValues (ValueText budget) (readMemberShape budget) :=
        fun taken => takes_readColon ih taken
      have read : ReadBehind (ValueText budget) (readMemberShape budget) (fun _ _ => True) ['{']
          left (readMembers (readMemberShape budget) .map left) :=
        readBehind_readMembers takes (fun _ _ => trivial) trivial left
      replace members : readMembers (readMemberShape budget) .map left = _ := members
      rw [members] at read
      obtain ⟨w, spelt, rfl⟩ := read
      exact ⟨'{' :: w, .inr (.inr spelt), front⟩

end GuardedSms.Json
