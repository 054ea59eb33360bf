import GuardedSms.Proofs.Json.Arrays
import GuardedSms.Proofs.Json.Members
import GuardedSms.Proofs.Json.Scalars

/-!
# Reading written values

A value that was written is read down to its shape, unless it is nested too deeply: then the text
counts as malformed. Readers of items and members may refuse what they meet; the first refusal from
the left is the answer, whatever stands behind it.

## Main definitions

* `shape`: what the reader of shapes keeps of a value.
* `IntegersFit`: no integer of a value is read as a floating point number.

## Main statements

* `readItems_chars`, `readMembers_chars`: a written array or object is read part by part.
* `readShape_chars`: the budget is exactly the depth up to which a written value is read.
-/
namespace GuardedSms.Json

/-- As much of a value as a message about it needs. -/
def shape : Json → Shape
  | null => .null
  | bool b => .bool b
  | int n => .integer n
  | str s => .string s
  | arr _ => .sequence
  | obj _ => .map

mutual

/-- All integers of a value are in the range of those that are read as such. -/
def IntegersFit : Json → Prop
  | int n => Fits n
  | arr items => IntegersFitItems items
  | obj members => IntegersFitMembers members
  | _ => True

def IntegersFitItems : List Json → Prop
  | [] => True
  | item :: rest => item.IntegersFit ∧ IntegersFitItems rest

def IntegersFitMembers : List (String × Json) → Prop
  | [] => True
  | (_, value) :: rest => value.IntegersFit ∧ IntegersFitMembers rest

end

theorem IntegersFit.item {items : List Json} (h : (arr items).IntegersFit) :
    ∀ item ∈ items, item.IntegersFit := by
  rw [IntegersFit] at h
  induction items with
  | nil => simp
  | cons item items ih =>
    rw [IntegersFitItems] at h
    exact List.forall_mem_cons.mpr ⟨h.1, ih h.2⟩

theorem IntegersFit.member {members : List (String × Json)} (h : (obj members).IntegersFit) :
    ∀ m ∈ members, m.2.IntegersFit := by
  rw [IntegersFit] at h
  induction members with
  | nil => simp
  | cons m members ih =>
    rw [IntegersFitMembers] at h
    exact List.forall_mem_cons.mpr ⟨h.1, ih h.2⟩

/-! ## The front of a written value -/

theorem exists_cons_intChars (n : Int) :
    ∃ c t, intChars n = c :: t ∧ (c = '-' ∨ isDigit c) := by
  cases n with
  | ofNat n =>
    obtain ⟨c, t, digits, digit⟩ := exists_cons_toDigits n
    exact ⟨c, t, digits, .inr digit⟩
  | negSucc n => exact ⟨_, _, rfl, .inl rfl⟩

/-- No written value starts with a blank or like the end of an array. -/
theorem exists_cons_chars (j : Json) : ∃ c t, j.chars = c :: t ∧ isBlank c = false ∧ c ≠ ']' := by
  cases j with
  | null => exact ⟨_, _, rfl, by decide⟩
  | bool b => cases b <;> exact ⟨_, _, rfl, by decide⟩
  | int n =>
    obtain ⟨c, t, written, rfl | digit⟩ := exists_cons_intChars n
    · exact ⟨_, t, by rw [chars, written], by decide⟩
    · refine ⟨c, t, by rw [chars, written], not_isBlank_of_isDigit digit, ?_⟩
      rintro rfl
      contradiction
  | str s => exact ⟨_, _, rfl, by decide⟩
  | arr items => cases items <;> exact ⟨'[', _, by rw [chars], by decide⟩
  | obj members => cases members <;> exact ⟨'{', _, by rw [chars], by decide⟩

/-- Only arrays and objects start with a bracket or brace. -/
theorem head_chars_scalar {j : Json} (scalar : j.depth = 0) :
    j.chars.head? ≠ some '[' ∧ j.chars.head? ≠ some '{' := by
  cases j with
  | null => exact ⟨by decide, by decide⟩
  | bool b => cases b <;> exact ⟨by decide, by decide⟩
  | int n =>
    obtain ⟨c, t, written, rfl | digit⟩ := exists_cons_intChars n
    · simp [chars, written]
    · rw [chars, written]
      constructor <;> rintro ⟨⟩ <;> contradiction
  | str s => exact ⟨by simp [chars, quoted], by simp [chars, quoted]⟩
  | arr items => simp [depth] at scalar
  | obj members => simp [depth] at scalar

/-! ## Written arrays -/

section Items

variable {α : Type} {r : Reader α} {check : Json → Except Fault α}

theorem delimits_moreItems (items : List Json) (rest : List Char) :
    Delimits (moreItems items ++ rest) := by
  cases items with
  | nil =>
    rw [moreItems]
    exact blanks_nil.delimits (c := ']') (by decide) rest
  | cons item items =>
    rw [moreItems]
    exact blanks_nil.delimits (c := ',') (by decide) _

/-- The items after the first are read one by one, up to the first that is refused. -/
theorem readMoreItems_chars (skips : ∀ cs, r (skipBlanks cs) = r cs) {items : List Json}
    (reads : ∀ item ∈ items, ∀ {rest}, Delimits rest →
      r (item.chars ++ rest) = (check item).map (·, rest))
    {fuel : Nat} (enough : (moreItems items).length ≤ fuel) (rest : List Char) :
    readMoreItems r fuel (moreItems items ++ rest) = (items.mapM check).map (·, rest) := by
  induction items generalizing fuel with
  | nil =>
    obtain ⟨fuel, rfl⟩ : ∃ n, fuel = n + 1 := ⟨fuel - 1, by simp [moreItems] at enough; omega⟩
    rfl
  | cons item items ih =>
    rw [moreItems] at enough ⊢
    obtain ⟨fuel, rfl⟩ : ∃ n, fuel = n + 1 := ⟨fuel - 1, by simp at enough; omega⟩
    have others : readMoreItems r fuel (moreItems items ++ rest) =
        (items.mapM check).map (·, rest) :=
      ih (fun i hi => reads i (.tail _ hi)) (by simp at enough; omega)
    have first := reads item (.head _) (delimits_moreItems items rest)
    obtain ⟨c, t, written, noBlank, noEnd⟩ := item.exists_cons_chars
    have front : skipBlanks (item.chars ++ (moreItems items ++ rest)) =
        c :: (t ++ (moreItems items ++ rest)) := by
      rw [written]
      exact skipBlanks_cons noBlank _
    rw [List.cons_append, List.append_assoc, readMoreItems_comma skips rfl front noEnd, first,
      List.mapM_cons]
    cases check item with
    | error fault => rfl
    | ok a =>
      change (readMoreItems r fuel (moreItems items ++ rest) >>= _) = _
      rw [others]
      cases items.mapM check <;> rfl

/-- A written array is read item by item, up to the first that is refused. -/
theorem readItems_chars (skips : ∀ cs, r (skipBlanks cs) = r cs) {items : List Json}
    (reads : ∀ item ∈ items, ∀ {rest}, Delimits rest →
      r (item.chars ++ rest) = (check item).map (·, rest))
    {w : List Char} (written : (arr items).chars = '[' :: w) (rest : List Char) :
    readItems r (w ++ rest) = (items.mapM check).map (·, rest) := by
  cases items with
  | nil =>
    obtain rfl : [']'] = w := by simpa [chars] using written
    rfl
  | cons item items =>
    obtain rfl : item.chars ++ moreItems items = w := by simpa [chars] using written
    have enough : (moreItems items).length ≤ (moreItems items ++ rest).length := by simp
    have others := readMoreItems_chars skips (fun i hi => reads i (.tail _ hi)) enough rest
    have first := reads item (.head _) (delimits_moreItems items rest)
    obtain ⟨c, t, opened, noBlank, noEnd⟩ := item.exists_cons_chars
    have front : skipBlanks (item.chars ++ (moreItems items ++ rest)) =
        c :: (t ++ (moreItems items ++ rest)) := by
      rw [opened]
      exact skipBlanks_cons noBlank _
    rw [List.append_assoc, readItems_first skips front noEnd, first, List.mapM_cons]
    cases check item with
    | error fault => rfl
    | ok a =>
      change (readMoreItems r _ (moreItems items ++ rest) >>= _) = _
      rw [others]
      cases items.mapM check <;> rfl

end Items

/-! ## Written objects -/

section Members

variable {σ : Type} {member : σ → String → Reader σ} {next : σ → String × Json → Except Fault σ}

/-- A member is read behind its written key from its colon on. -/
theorem readKeyed_chars {s : σ} {m : String × Json} {rest : List Char}
    (reads : member s m.1 (':' :: (m.2.chars ++ rest)) = (next s m).map (·, rest)) {k : List Char}
    (written : quoted m.1 = '"' :: k) :
    readKeyed member s (k ++ ':' :: (m.2.chars ++ rest)) = (next s m).map (·, rest) := by
  have spelt : TextSpelling m.1 ('"' :: k) := written ▸ textSpelling_quoted m.1
  rw [readKeyed, readString_eq_ok_iff.mpr ⟨k, spelt, rfl⟩]
  exact reads

/-- The members after the first are read one by one, up to the first that is refused. -/
theorem readMoreMembers_chars {members : List (String × Json)}
    (reads : ∀ m ∈ members, ∀ s {rest}, Delimits rest →
      member s m.1 (':' :: (m.2.chars ++ rest)) = (next s m).map (·, rest))
    (s : σ) {fuel : Nat} (enough : (moreMembers members).length ≤ fuel) (rest : List Char) :
    readMoreMembers member fuel s (moreMembers members ++ rest) =
      (members.foldlM next s).map (·, rest) := by
  induction members generalizing s fuel with
  | nil =>
    obtain ⟨fuel, rfl⟩ : ∃ n, fuel = n + 1 := ⟨fuel - 1, by simp [moreMembers] at enough; omega⟩
    rfl
  | cons m members ih =>
    rw [moreMembers] at enough ⊢
    obtain ⟨fuel, rfl⟩ : ∃ n, fuel = n + 1 := ⟨fuel - 1, by simp at enough; omega⟩
    obtain ⟨k, written, -⟩ := exists_cons_quoted m.1
    have first := readKeyed_chars
      (reads m (.head _) s (delimits_moreMembers members rest)) written
    simp only [written, List.cons_append, List.append_assoc]
    rw [readMoreMembers_comma, first, List.foldlM_cons]
    cases next s m with
    | error fault => rfl
    | ok s' => exact ih (fun m hm => reads m (.tail _ hm)) s' (by simp at enough; omega)

/-- A written object is read member by member, up to the first that is refused. -/
theorem readMembers_chars {members : List (String × Json)}
    (reads : ∀ m ∈ members, ∀ s {rest}, Delimits rest →
      member s m.1 (':' :: (m.2.chars ++ rest)) = (next s m).map (·, rest))
    (s : σ) {w : List Char} (written : (obj members).chars = '{' :: w) (rest : List Char) :
    readMembers member s (w ++ rest) = (members.foldlM next s).map (·, rest) := by
  cases members with
  | nil =>
    obtain rfl : ['}'] = w := by simpa [chars] using written
    rfl
  | cons m members =>
    obtain ⟨k, quote, -⟩ := exists_cons_quoted m.1
    obtain rfl : '"' :: (k ++ ':' :: (m.2.chars ++ moreMembers members)) = w := by
      simpa [chars, quote] using written
    have first := readKeyed_chars
      (reads m (.head _) s (delimits_moreMembers members rest)) quote
    have enough : (moreMembers members).length ≤ (moreMembers members ++ rest).length := by simp
    simp only [List.cons_append, List.append_assoc]
    rw [readMembers_quote, first, List.foldlM_cons]
    cases next s m with
    | error fault => rfl
    | ok s' => exact readMoreMembers_chars (fun m hm => reads m (.tail _ hm)) s' enough rest

end Members

/-! ## Shapes -/

theorem readShape_skipBlanks (budget : Nat) (cs : List Char) :
    readShape budget (skipBlanks cs) = readShape budget cs := by
  cases budget <;> simp [readShape, readValue]

/-- An answer about values of some depth, if the budget covers it. -/
def budgeted {α : Type} (budget depth : Nat) (a : α) : Except Fault α :=
  if depth ≤ budget then .ok a else .error .malformed

@[simp] theorem map_budgeted {α β : Type} (budget d : Nat) (f : α → β) (a : α) :
    (budgeted budget d a).map f = budgeted budget d (f a) := by
  unfold budgeted
  split <;> rfl

@[simp] theorem budgeted_succ {α : Type} (budget d : Nat) (a : α) :
    budgeted (budget + 1) (d + 1) a = budgeted budget d a := by
  simp [budgeted]

theorem bind_budgeted {α β : Type} (budget d : Nat) (f : α → β) (a : α) :
    (budgeted budget d a >>= fun a => .ok (f a)) = budgeted budget d (f a) :=
  map_budgeted budget d f a

theorem budgeted_max {α : Type} (budget d e : Nat) (a : α) :
    budgeted budget (max d e) a =
      if d ≤ budget then budgeted budget e a else .error .malformed := by
  grind [budgeted]

theorem mapM_budgeted {α : Type} (budget : Nat) (f : Json → α) (items : List Json) :
    items.mapM (fun item => budgeted budget item.depth (f item)) =
      budgeted budget (depthItems items) (items.map f) := by
  induction items with
  | nil => simp [budgeted, depthItems]
  | cons item items ih =>
    rw [List.mapM_cons, ih, depthItems, budgeted_max]
    by_cases first : item.depth ≤ budget
    · by_cases others : depthItems items ≤ budget <;> simp [budgeted, first, others]
    · simp [budgeted, first]

theorem foldlM_budgeted {σ α : Type} (budget : Nat) (f : String × Json → σ) (s : σ) (a : α)
    (members : List (String × Json)) :
    (members.foldlM (fun _ m => budgeted budget m.2.depth (f m)) s).map (fun _ => a) =
      budgeted budget (depthMembers members) a := by
  induction members generalizing s with
  | nil => simp [budgeted, depthMembers, Except.map]
  | cons m members ih =>
    rw [List.foldlM_cons, depthMembers, budgeted_max, ← ih (f m)]
    by_cases first : m.2.depth ≤ budget <;> simp [budgeted, first, Except.map]

/-- What a written scalar opens with is all of it. -/
theorem openingSpelling_chars {j : Json} (fit : j.IntegersFit) (scalar : j.depth = 0) :
    OpeningSpelling j.shape j.chars := by
  cases j with
  | null => exact .null
  | bool b => cases b <;> exact .bool _
  | int n => exact .integer (integerSpelling_intChars n) fit
  | str s => exact .string (textSpelling_quoted s)
  | arr items => simp [depth] at scalar
  | obj members => simp [depth] at scalar

theorem readShape_bracket (budget : Nat) (cs : List Char) :
    readShape (budget + 1) ('[' :: cs) =
      (readItems (readShape budget) cs >>= fun p => .ok (.sequence, p.2)) := rfl

/-- A member that is read from its colon on, of which only the shape is kept. -/
def readMemberShape (budget : Nat) (_ : Shape) (_ : String) : Reader Shape := fun cs =>
  readColon cs >>= readShape budget

theorem readShape_brace (budget : Nat) (cs : List Char) :
    readShape (budget + 1) ('{' :: cs) =
      (readMembers (readMemberShape budget) .map cs >>= fun p => .ok (.map, p.2)) := rfl

/-- A written value opens with its shape. Of a scalar nothing is left. -/
theorem readOpening_chars {j : Json} (fit : j.IntegersFit) {rest : List Char}
    (ends : Delimits rest) :
    ∃ behind, readOpening (j.chars ++ rest) = .ok (j.shape, behind) ∧
      (j.depth = 0 → behind = rest) := by
  by_cases scalar : j.depth = 0
  · exact ⟨rest, readOpening_append (openingSpelling_chars fit scalar) ends, fun _ => rfl⟩
  · cases j with
    | arr items => cases items <;> exact ⟨_, by rw [chars]; rfl, by simp [depth]⟩
    | obj members => cases members <;> exact ⟨_, by rw [chars]; rfl, by simp [depth]⟩
    | _ => exact absurd rfl scalar

theorem readShape_scalar (budget : Nat) {j : Json} (fit : j.IntegersFit) (scalar : j.depth = 0)
    {rest : List Char} (ends : Delimits rest) :
    readShape budget (j.chars ++ rest) = .ok (j.shape, rest) := by
  obtain ⟨c, t, written, noBlank, -⟩ := j.exists_cons_chars
  have front : (skipBlanks (j.chars ++ rest)).head? = j.chars.head? := by
    rw [written, List.cons_append, skipBlanks_cons noBlank]
    rfl
  obtain ⟨noBracket, noBrace⟩ := head_chars_scalar scalar
  rw [readShape_eq_readOpening (front ▸ noBracket) (front ▸ noBrace)]
  exact readOpening_append (openingSpelling_chars fit scalar) ends

/-- A written value is read down to its shape if the budget covers its depth, and is malformed
otherwise. -/
theorem readShape_chars (budget : Nat) {j : Json} (fit : j.IntegersFit) {rest : List Char}
    (ends : Delimits rest) :
    readShape budget (j.chars ++ rest) = (budgeted budget j.depth j.shape).map (·, rest) := by
  induction budget generalizing j rest with
  | zero =>
    cases j with
    | arr items => cases items <;> rfl
    | obj members => cases members <;> rfl
    | _ => exact readShape_scalar 0 fit rfl ends
  | succ budget ih =>
    cases j with
    | arr items =>
      obtain ⟨w, written⟩ : ∃ w, (arr items).chars = '[' :: w := by
        cases items <;> exact ⟨_, by rw [chars]⟩
      have parts := readItems_chars (readShape_skipBlanks budget)
        (fun item hi => ih (fit.item item hi)) written rest
      rw [written, List.cons_append, readShape_bracket, parts]
      simp only [map_budgeted, mapM_budgeted, bind_budgeted, depth, budgeted_succ, shape]
    | obj members =>
      obtain ⟨w, written⟩ : ∃ w, (obj members).chars = '{' :: w := by
        cases members <;> exact ⟨_, by rw [chars]⟩
      have reads : ∀ m ∈ members, ∀ s {rest}, Delimits rest →
          readMemberShape budget s m.1 (':' :: (m.2.chars ++ rest)) =
            (budgeted budget m.2.depth m.2.shape).map (·, rest) :=
        fun m hm _ _ ends => ih (fit.member m hm) ends
      rw [written, List.cons_append, readShape_brace, readMembers_chars reads .map written rest,
        map_budgeted, depth, budgeted_succ,
        ← foldlM_budgeted budget (fun m => m.2.shape) Shape.map _ members]
      cases members.foldlM (fun _ m => budgeted budget m.2.depth m.2.shape) Shape.map <;> rfl
    | _ => exact readShape_scalar _ fit rfl ends

end GuardedSms.Json
