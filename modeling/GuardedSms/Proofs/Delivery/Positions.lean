import GuardedSms.Proofs.Delivery.Carrying

/-!
# Deliveries by position

An array describes a delivery if its elements are the kind and the fields in their order. Three
things may be wrong with it. What should be the kind is looked at first, and nothing behind it is
read then. Next count the elements that stand where a text is expected, and the number of elements
only if all of these are texts, so nothing is ever said about the elements that are too many.

## Main definitions

* `byPosition`: the delivery of one kind that elements describe, or what is reported about them.
* `fromArray`: the delivery that the items of an array describe, the kind among them.

## Main statements

* `ofElements_shapes`: the order in which elements are looked at.
* `decode_by_position`: a written array is decoded to what its items describe.
-/
namespace GuardedSms.Json

theorem depthItems_le {n : Nat} {items : List Json} (shallow : ∀ x ∈ items, x.depth ≤ n) :
    depthItems items ≤ n := by
  induction items with
  | nil => exact Nat.zero_le n
  | cons x items ih =>
    rw [List.forall_mem_cons] at shallow
    have others := ih shallow.2
    rw [depthItems]
    omega

theorem chars_arr_cons (x : Json) (xs : List Json) :
    (arr (x :: xs)).chars = '[' :: (x.chars ++ moreItems xs) := by
  rw [chars]

/-- Items that are not nested too deeply are all read down to their shapes. -/
theorem readMoreItems_shapes (budget : Nat) {items : List Json}
    (fit : ∀ x ∈ items, x.IntegersFit) (shallow : ∀ x ∈ items, x.depth ≤ budget)
    (rest : List Char) :
    readMoreItems (readShape budget) (moreItems items ++ rest).length (moreItems items ++ rest) =
      .ok (items.map shape, rest) := by
  have enough : (moreItems items).length ≤ (moreItems items ++ rest).length := by simp
  rw [readMoreItems_chars (readShape_skipBlanks budget)
    (fun x mem => readShape_chars budget (fit x mem)) enough, mapM_budgeted, budgeted,
    if_pos (depthItems_le shallow)]
  rfl

/-- A value opens with its shape, whatever follows it. Only an integer must not go on. -/
theorem readOpening_shape {j : Json} (fit : j.IntegersFit) {rest : List Char}
    (ends : ∀ n, j = .int n → Delimits rest) :
    ∃ behind, readOpening (j.chars ++ rest) = .ok (j.shape, behind) := by
  cases j with
  | int n =>
    obtain ⟨behind, opened, -⟩ := readOpening_chars fit (ends n rfl)
    exact ⟨behind, opened⟩
  | str s =>
    obtain ⟨k, quote, spelt⟩ := exists_cons_quoted s
    have read : readString (k ++ rest) = .ok (s, rest) :=
      readString_eq_ok_iff.mpr ⟨k, spelt, rfl⟩
    refine ⟨rest, ?_⟩
    rw [chars, quote, List.cons_append, readOpening_quote, read]
    rfl
  | null => exact ⟨rest, rfl⟩
  | bool b => cases b <;> exact ⟨rest, rfl⟩
  | arr items => cases items <;> exact ⟨_, by rw [chars]; rfl⟩
  | obj members => cases members <;> exact ⟨_, by rw [chars]; rfl⟩

end GuardedSms.Json

namespace GuardedSms.Delivery

open Json

/-! ## The order in which items count -/

/-- What is reported about a wrong number of elements. -/
def lengthReport (k : Kind) (n : Nat) : String :=
  "invalid length " ++ toString n ++ ", expected " ++
    match k with
    | .send =>
      if n < 2 then "struct variant Dispatch::Send with 2 elements" else "2 elements in sequence"
    | .log =>
      if n < 1 then "struct variant Dispatch::Log with 1 element" else "1 element in sequence"

/-- The delivery of one kind that the elements behind it describe, or what is reported. -/
def byPosition (k : Kind) (xs : List Json) : Except String Delivery := do
  heed ((xs.take k.fields.length).findSome? notText)
  match k, xs with
  | .send, [.str number, .str message] => return send number message
  | .log, [.str message] => return log message
  | _, _ => .error (lengthReport k xs.length)

/-- The delivery that the items of an array describe, or what is reported. -/
def fromArray : List Json → Except String Delivery
  | [] => .error "missing field `effect`"
  | tag :: xs => do
    heed (notKind tag)
    byPosition (if tag.shape = .string "send" then .send else .log) xs

/-! ## Elements -/

variable {k : Kind} {xs : List Json}

theorem isText_or_refused (value : Json) :
    (∃ s, value = .str s) ∨
      ∃ misfit, text? value.shape = .error misfit ∧ notText value = some misfit.message := by
  cases value with
  | str s => exact .inl ⟨s, rfl⟩
  | _ => exact .inr ⟨_, rfl, (notText_eq _).trans rfl⟩

/-- The first expected position without a text counts, however many elements there are. -/
theorem byPosition_refused {report : String}
    (first : (xs.take k.fields.length).findSome? notText = some report) :
    byPosition k xs = .error report := by
  unfold byPosition
  rw [first]
  rfl

theorem byPosition_refused_first {value : Json} {report : String}
    (wrong : notText value = some report) : byPosition k (value :: xs) = .error report := by
  refine byPosition_refused ?_
  cases k <;> simp [Kind.fields, wrong]

theorem byPosition_refused_second {number : String} {value : Json} {report : String}
    (wrong : notText value = some report) :
    byPosition .send (.str number :: value :: xs) = .error report := by
  have passed : notText (.str number) = none := rfl
  exact byPosition_refused (by simp [Kind.fields, passed, wrong])

/-- Too many elements are counted, and nothing else is said of them. -/
theorem message_tooMany {n : Nat} (many : k.fields.length < n) :
    (Misfit.wrongLength n k.sequenceExpected).message = lengthReport k n := by
  have told : (Misfit.wrongLength n k.sequenceExpected).message =
    "invalid length " ++ toString n ++ ", expected " ++ k.sequenceExpected := rfl
  unfold lengthReport
  rw [told]
  cases k with
  | send =>
    have enough : ¬ n < 2 := Nat.not_lt.mpr (Nat.le_of_lt many)
    simp only [if_neg enough, Kind.sequenceExpected]
  | log =>
    have enough : ¬ n < 1 := Nat.not_lt.mpr (Nat.le_of_lt many)
    simp only [if_neg enough, Kind.sequenceExpected]

theorem ofElements_send_shapes (xs : List Json) :
    (ofElements .send (xs.map shape)).mapError Misfit.message = byPosition .send xs := by
  match xs with
  | [] => rfl
  | [number] =>
    obtain ⟨n, rfl⟩ | ⟨misfit, refused, told⟩ := isText_or_refused number
    · rfl
    · rw [byPosition_refused_first told]
      simp [ofElements, refused, Except.mapError]
  | number :: message :: rest =>
    obtain ⟨n, rfl⟩ | ⟨misfit, refused, told⟩ := isText_or_refused number
    · obtain ⟨m, rfl⟩ | ⟨misfit, refused, told⟩ := isText_or_refused message
      · cases rest with
        | nil => rfl
        | cons x rest =>
          have many : Kind.send.fields.length < (rest.map shape).length + 3 := by
            simp [Kind.fields]
          have read : ofElements .send ((.str n :: .str m :: x :: rest).map shape) =
            .error (.wrongLength ((rest.map shape).length + 3) Kind.send.sequenceExpected) := rfl
          rw [read, Except.mapError, message_tooMany many, List.length_map]
          rfl
      · have read : ofElements .send ((.str n :: message :: rest).map shape) = .error misfit := by
          change (text? message.shape >>= _) = _
          rw [refused]
          rfl
        rw [byPosition_refused_second told, read, Except.mapError]
    · rw [byPosition_refused_first told]
      simp [ofElements, refused, Except.mapError]

theorem ofElements_log_shapes (xs : List Json) :
    (ofElements .log (xs.map shape)).mapError Misfit.message = byPosition .log xs := by
  cases xs with
  | nil => rfl
  | cons message rest =>
    obtain ⟨m, rfl⟩ | ⟨misfit, refused, told⟩ := isText_or_refused message
    · cases rest with
      | nil => rfl
      | cons x rest =>
        have many : Kind.log.fields.length < (rest.map shape).length + 2 := by
          simp [Kind.fields]
        have read : ofElements .log ((.str m :: x :: rest).map shape) =
          .error (.wrongLength ((rest.map shape).length + 2) Kind.log.sequenceExpected) := rfl
        rw [read, Except.mapError, message_tooMany many, List.length_map]
        rfl
    · rw [byPosition_refused_first told]
      simp [ofElements, refused, Except.mapError]

/-- Elements are looked at in the order that is described. -/
theorem ofElements_shapes (k : Kind) (xs : List Json) :
    (ofElements k (xs.map shape)).mapError Misfit.message = byPosition k xs :=
  match k with
  | .send => ofElements_send_shapes xs
  | .log => ofElements_log_shapes xs

/-- Elements make up a delivery only if they are its fields, one by one. -/
theorem byPosition_eq_ok_iff {d : Delivery} :
    byPosition k xs = .ok d ↔ .str k.name :: xs = d.members.map (·.2) := by
  constructor
  · intro made
    unfold byPosition at made
    obtain ⟨-, -, made⟩ := bind_eq_ok_iff.mp made
    split at made
    · obtain rfl := Except.ok.inj made
      rfl
    · obtain rfl := Except.ok.inj made
      rfl
    · contradiction
  · intro same
    cases d with
    | send number message =>
      obtain ⟨tag, rfl⟩ := List.cons.inj same
      obtain rfl : k = .send := by cases k <;> simp_all [Kind.name]
      rfl
    | log message =>
      obtain ⟨tag, rfl⟩ := List.cons.inj same
      obtain rfl : k = .log := by cases k <;> simp_all [Kind.name]
      rfl

/-! ## Arrays -/

theorem reader_bracket (cs : List Char) : reader ('[' :: cs) = readArray cs := rfl

/-- The kind is read first, and the elements behind it only if there is one. -/
theorem readArray_chars (tag : Json) (rest : List Char) :
    readArray (tag.chars ++ rest) = (readKind (tag.chars ++ rest) >>= fun p =>
      readMoreItems (readShape (nestingLimit - 1)) p.2.length p.2 >>= fun q =>
        (ofElements p.1 q.1).mapError .unfit >>= fun d => .ok (d, q.2)) := by
  obtain ⟨c, t, written, noBlank, noEnd⟩ := tag.exists_cons_chars
  have front : skipBlanks (tag.chars ++ rest) = tag.chars ++ rest := by
    rw [written, List.cons_append, skipBlanks_cons noBlank]
  unfold readArray
  rw [front]
  split
  · simp_all
  · simp_all
  · rfl

theorem decode_bracket_error {cs : List Char} {misfit : Misfit}
    (refused : readArray cs = .error (.unfit misfit)) :
    decode (String.ofList ('[' :: cs)) = .error (.unfit misfit) := by
  rw [decode, readAll, String.toList_ofList, reader_bracket, refused]
  rfl

/-- An empty array is refused, whatever follows it. -/
theorem decode_empty_answers (rest : List Char) :
    Answers (decode (String.ofList ('[' :: ']' :: rest))) (.error "missing field `effect`") :=
  ⟨.missingField effectKey, decode_bracket_error rfl, rfl⟩

theorem readKind_refused {tag : Json} (fit : tag.IntegersFit) {rest : List Char}
    (ends : ∀ n, tag = .int n → Delimits rest) {misfit : Misfit}
    (wrong : kindOf tag = .error misfit) :
    readKind (tag.chars ++ rest) = .error (.unfit misfit) := by
  obtain ⟨behind, opened⟩ := readOpening_shape fit ends
  rw [readKind, Payload.readAs_eq, opened]
  cases tag with
  | str name =>
    simp only [kindOf] at wrong
    simp only [shape, ok_bind, Payload.verdict, pure_eq_ok]
    cases told : Kind.ofName? name with
    | some kind => simp [told] at wrong
    | none =>
      rw [told] at wrong
      exact congrArg (fun m => Except.error (Fault.unfit m)) (Except.error.inj wrong)
  | _ => exact congrArg (fun m => Except.error (Fault.unfit m)) (Except.error.inj wrong)

/-- What names no kind is refused, whatever follows it. -/
theorem decode_tag_answers {tag : Json} (fit : tag.IntegersFit) {report : String}
    (wrong : notKind tag = some report) {rest : List Char}
    (ends : ∀ n, tag = .int n → Delimits rest) :
    Answers (decode (String.ofList ('[' :: (tag.chars ++ rest)))) (.error report) := by
  rw [notKind_eq] at wrong
  cases told : kindOf tag with
  | ok kind =>
    rw [told] at wrong
    contradiction
  | error misfit =>
    rw [told] at wrong
    refine ⟨misfit, decode_bracket_error ?_, Option.some_inj.mp wrong⟩
    rw [readArray_chars, readKind_refused fit ends told]
    rfl

/-- Behind a kind all elements are read, and looked at in the end. -/
theorem decode_elements (k : Kind) {xs : List Json} (fit : ∀ x ∈ xs, x.IntegersFit)
    (shallow : ∀ x ∈ xs, x.depth ≤ 126) :
    decode (String.ofList (arr (.str k.name :: xs)).chars) =
      (ofElements k (xs.map shape)).mapError .unfit := by
  have items := readMoreItems_shapes (nestingLimit - 1) fit shallow []
  rw [List.append_nil] at items
  have ends := delimits_moreItems xs []
  rw [List.append_nil] at ends
  have named : readKind ((Json.str k.name).chars ++ moreItems xs) = .ok (k, moreItems xs) :=
    readKind_name k ends
  have array : readArray ((Json.str k.name).chars ++ moreItems xs) =
      ((ofElements k (xs.map shape)).mapError .unfit >>= fun d => .ok (d, [])) := by
    rw [readArray_chars, named, ok_bind, items]
    rfl
  rw [decode, readAll, String.toList_ofList, chars_arr_cons, reader_bracket, array]
  cases ofElements k (xs.map shape) <;> rfl

theorem Answers.eq_ok_iff {α : Type} {read : Except Fault α} {answer : Except String α}
    (h : Answers read answer) {a : α} : read = .ok a ↔ answer = .ok a := by
  cases answer with
  | ok b => rw [show read = .ok b from h, Except.ok.injEq, Except.ok.injEq]
  | error text =>
    obtain ⟨misfit, refused, -⟩ := h
    simp [refused]

theorem isKind_or_refused (tag : Json) :
    (∃ k : Kind, tag = .str k.name) ∨ ∃ report, notKind tag = some report := by
  rw [notKind_eq]
  cases told : kindOf tag with
  | ok k => exact .inl ⟨k, kindOf_eq_ok_iff.mp told⟩
  | error misfit => exact .inr ⟨_, rfl⟩

theorem fromArray_name (k : Kind) (xs : List Json) :
    fromArray (.str k.name :: xs) = byPosition k xs := by
  cases k <;> rfl

theorem fromArray_refused {tag : Json} {report : String} (wrong : notKind tag = some report)
    (xs : List Json) : fromArray (tag :: xs) = .error report := by
  change (heed (notKind tag) >>= _) = _
  rw [wrong]
  rfl

/-- A written array is decoded to the delivery that its items describe. -/
theorem decode_arr_answers {items : List Json} (fit : ∀ x ∈ items, x.IntegersFit)
    (shallow : ∀ x ∈ items.tail, x.depth ≤ 126) :
    Answers (decode (String.ofList (arr items).chars)) (fromArray items) := by
  cases items with
  | nil => exact decode_empty_answers []
  | cons tag xs =>
    rw [List.forall_mem_cons] at fit
    obtain ⟨k, rfl⟩ | ⟨report, wrong⟩ := isKind_or_refused tag
    · rw [fromArray_name, decode_elements k fit.2 shallow, ← ofElements_shapes]
      cases ofElements k (xs.map shape) with
      | error misfit => exact ⟨misfit, rfl, rfl⟩
      | ok d => exact rfl
    · have ends := delimits_moreItems xs []
      rw [List.append_nil] at ends
      rw [fromArray_refused wrong, chars_arr_cons]
      exact decode_tag_answers fit.1 wrong fun _ _ => ends

theorem fromArray_eq_ok_iff {items : List Json} {d : Delivery} :
    fromArray items = .ok d ↔ items = d.members.map (·.2) := by
  cases items with
  | nil => cases d <;> simp [fromArray, members]
  | cons tag xs =>
    obtain ⟨k, rfl⟩ | ⟨report, wrong⟩ := isKind_or_refused tag
    · rw [fromArray_name, byPosition_eq_ok_iff]
    · rw [fromArray_refused wrong]
      constructor
      · intro made
        contradiction
      · intro same
        cases d <;> obtain ⟨rfl, -⟩ := List.cons.inj same <;> contradiction

/-- A written array is decoded by position. It gives a delivery only if its items are the kind and
the fields of the delivery in their order, and then the same as every object whose members carry
the delivery. Otherwise what counts first is reported, and where the kind is missing or wrong that
is done whatever follows. -/
theorem decode_by_position (items : List Json) (fit : ∀ x ∈ items, x.IntegersFit)
    (shallow : ∀ x ∈ items.tail, x.depth ≤ 126) :
    Answers (decode (String.ofList (arr items).chars)) (fromArray items) ∧
      (∀ d, decode (String.ofList (arr items).chars) = .ok d ↔ items = d.members.map (·.2)) ∧
      (∀ d members, items = d.members.map (·.2) → Carries members d →
        (∀ m ∈ members, m.2.IntegersFit) → (∀ m ∈ members, m.2.depth ≤ 126) →
        decode (String.ofList (obj members).chars) = decode (String.ofList (arr items).chars)) ∧
      (∀ rest, Answers (decode (String.ofList ('[' :: ']' :: rest)))
        (.error "missing field `effect`")) ∧
      ∀ tag ∈ items.head?, ∀ report, notKind tag = some report →
        ∀ rest, (∀ n, tag = .int n → Delimits rest) →
          Answers (decode (String.ofList ('[' :: (tag.chars ++ rest)))) (.error report) := by
  have answers := decode_arr_answers fit shallow
  have accepted : ∀ d, decode (String.ofList (arr items).chars) = .ok d ↔
      items = d.members.map (·.2) := fun d => answers.eq_ok_iff.trans fromArray_eq_ok_iff
  refine ⟨answers, accepted, ?_, decode_empty_answers, ?_⟩
  · intro d members same carried fit shallow
    rw [(accepted d).mpr same, decode_of_carries carried fit shallow]
  · intro tag first report wrong rest ends
    exact decode_tag_answers (fit tag (List.mem_of_mem_head? first)) wrong ends

/-- Elements that are too many need not be texts, an object may hold more and in another order, and
behind a wrong kind there need be no value. -/
theorem decode_by_position_log :
    Answers (decode (String.ofList (arr [.str "log", .str "hi", .null, .arr [.int 5]]).chars))
        (.error "invalid length 3, expected 1 element in sequence") ∧
      decode (String.ofList
          (obj [("message", .str "hi"), ("number", .null), ("effect", .str "log")]).chars) =
        decode (String.ofList (arr [.str "log", .str "hi"]).chars) ∧
      Answers (decode (String.ofList ('[' :: ((Json.int 5).chars ++ [',', '}']))))
        (.error "invalid type: integer `5`, expected variant identifier") := by
  have fit : ∀ x ∈ [Json.str "log", .str "hi", .null, .arr [.int 5]], x.IntegersFit := by
    simp [IntegersFit, IntegersFitItems, Fits]
  have shallow : ∀ x ∈ [Json.str "log", .str "hi", .null, .arr [.int 5]].tail, x.depth ≤ 126 := by
    decide
  have carried : Carries [("message", .str "hi"), ("number", .null), ("effect", .str "log")]
      (log "hi") := .swap _ _ _
  have ends : Delimits [',', '}'] := blanks_nil.delimits (c := ',') (by decide) ['}']
  refine ⟨(decode_by_position _ fit shallow).1, ?_, ?_⟩
  · refine (decode_by_position [.str "log", .str "hi"] ?_ (by decide)).2.2.1 (log "hi") _ rfl carried
      ?_ (by decide) <;> simp [IntegersFit]
  · exact (decode_by_position [.int 5] (by simp [IntegersFit, Fits]) (by decide)).2.2.2.2 _ rfl _ rfl
      _ fun _ _ => ends

end GuardedSms.Delivery
