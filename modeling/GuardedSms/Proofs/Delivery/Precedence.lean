import GuardedSms.Proofs.Delivery.Encoding
import GuardedSms.Proofs.Json.Rounds

/-!
# What is reported about an object

An object that should describe a delivery may have many faults at once: members of the wrong type,
repeated, unknown or missing ones, in any order. One order of precedence decides which of them is
reported. The members are looked at from the left for the kind first, and all of them again for the
fields of that kind; in each round the first objection counts. What is missing counts last.

## Main definitions

* `described`: the delivery that members describe, or the text of what is reported about them.
* `Answers`: a reading that agrees with a value or with the text of a report.

## Main statements

* `round_gather`, `round_put`: the two rounds over the members.
* `decode_obj_answers`: a written object is decoded to what its members describe.
-/
namespace GuardedSms.Delivery

open Json

/-! ## The order of precedence -/

/-- What is wrong with a value that should name a kind. -/
def notKind : Json → Option String
  | .str name =>
    if name = "send" ∨ name = "log" then none
    else some ("unknown variant `" ++ name ++ "`, expected `send` or `log`")
  | value => some ("invalid type: " ++ value.shape.describe ++ ", expected variant identifier")

/-- What is wrong with a value that should be a text. -/
def notText : Json → Option String
  | .str _ => none
  | value => some ("invalid type: " ++ value.shape.describe ++ ", expected a string")

/-- Stop at an objection. -/
def heed : Option String → Except String Unit
  | some text => .error text
  | none => .ok ()

/-- The text of a member that must be there. -/
def required (members : List (String × Json)) (key : String) : Except String String :=
  match members.lookup key with
  | some (.str text) => .ok text
  | _ => .error ("missing field `" ++ key ++ "`")

/-- The delivery that the members of an object describe, or what is reported about them. -/
def described (members : List (String × Json)) : Except String Delivery := do
  heed (firstObjection ["effect"] notKind [] members)
  let kind ← required members "effect"
  if kind = "send" then
    heed (firstObjection ["number", "message"] notText [] members)
    return send (← required members "number") (← required members "message")
  else
    heed (firstObjection ["message"] notText [] members)
    return log (← required members "message")

/-- A reading gives the value, or reports a misfit with the given text. -/
def Answers {α : Type} (read : Except Fault α) : Except String α → Prop
  | .ok a => read = .ok a
  | .error text => ∃ misfit, read = .error (.unfit misfit) ∧ misfit.message = text

/-! ## The wording of misfits -/

theorem message_wrongType (found : Shape) (expected : String) :
    (Misfit.wrongType found expected).message =
      "invalid type: " ++ found.describe ++ ", expected " ++ expected := rfl

theorem message_unknownVariant (name first second : String) :
    (Misfit.unknownVariant name first second).message =
      "unknown variant `" ++ name ++ "`, expected `" ++ first ++ "` or `" ++ second ++ "`" := rfl

/-! ## The round for the kind -/

/-- The kind that a value names. -/
def kindOf : Json → Except Misfit Kind
  | .str name =>
    match Kind.ofName? name with
    | some kind => .ok kind
    | none => .error (.unknownVariant name Kind.send.name Kind.log.name)
  | value => .error (.wrongType value.shape "variant identifier")

theorem Kind.ofName?_eq_some_iff {name : String} {kind : Kind} :
    Kind.ofName? name = some kind ↔ name = kind.name := by
  constructor
  · intro h
    unfold Kind.ofName? at h
    split at h
    · simp_all
    · split at h <;> simp_all
  · rintro rfl
    exact kind.ofName?_name

theorem kindOf_eq_ok_iff {value : Json} {kind : Kind} :
    kindOf value = .ok kind ↔ value = .str kind.name := by
  cases value with
  | str name =>
    rw [Json.str.injEq, ← Kind.ofName?_eq_some_iff, kindOf]
    cases Kind.ofName? name <;> simp
  | _ => simp [kindOf]

theorem notKind_eq (value : Json) : notKind value = worded (kindOf value) := by
  cases value with
  | str name =>
    rw [notKind]
    by_cases known : name = "send" ∨ name = "log"
    · obtain ⟨kind, named⟩ : ∃ kind : Kind, name = kind.name :=
        known.elim (fun h => ⟨.send, h⟩) fun h => ⟨.log, h⟩
      have told : kindOf (.str name) = .ok kind := kindOf_eq_ok_iff.mpr (congrArg _ named)
      rw [if_pos known, told, worded]
    · have unknown : Kind.ofName? name = none := by
        simp only [not_or] at known
        simp [Kind.ofName?, Kind.name, known]
      simp only [kindOf, unknown, worded, if_neg known, message_unknownVariant, Option.some_inj]
      simp [Kind.name, String.append_assoc]
  | _ =>
    simp only [notKind, kindOf, worded, message_wrongType, Option.some_inj]
    simp [String.append_assoc]

/-- What gathering a member makes of the members before it. -/
def gather (g : Gathered) (m : String × Json) : Except Misfit Gathered :=
  if m.1 = effectKey then
    if g.kind.isSome then .error (.duplicateField effectKey)
    else (kindOf m.2).map fun kind => { g with kind := some kind }
  else .ok { g with others := g.others ++ [(m.1, m.2.shape)] }

/-- What is gathered of members without objections. -/
def gatheredFrom (members : List (String × Json)) : Gathered where
  kind := (members.lookup effectKey).bind fun value => (kindOf value).toOption
  others := (members.filter (·.1 ≠ effectKey)).map fun m => (m.1, m.2.shape)

/-- Gathering members is a round that looks for the kind. -/
theorem round_gather : Round [effectKey] kindOf gather gatheredFrom where
  ignores before {m} other := by
    have other : m.1 ≠ effectKey := by simpa using other
    simp [gather, gatheredFrom, other, lookup_concat_other]
  checks {before m} passed isKind := by
    obtain ⟨key, value⟩ := m
    obtain rfl : key = effectKey := by simpa using isKind
    have met : (gatheredFrom before).kind.isSome = (before.lookup effectKey).isSome :=
      passed.isSome_toOption isKind
    rw [gather, if_pos rfl, met]
    refine if_ctx_congr Iff.rfl (fun _ => rfl) fun fresh => ?_
    have first := lookup_concat_same value (Option.not_isSome_iff_eq_none.mp fresh)
    cases told : kindOf value with
    | error misfit => rfl
    | ok kind => simp [gatheredFrom, first, told, Except.toOption, Except.map]

/-! ## The round for the fields -/

/-- The fields of a kind. -/
def Kind.fields : Kind → List String
  | send => [numberKey, messageKey]
  | log => [messageKey]

theorem notText_eq (value : Json) : notText value = worded (text? value.shape) := by
  cases value with
  | str s => rfl
  | _ =>
    simp only [notText, text?, shape, worded, message_wrongType, Option.some_inj]
    simp [String.append_assoc]

/-- The text under a key, if its first member holds one. -/
def textUnder (members : List (String × Json)) (key : String) : Option String :=
  (members.lookup key).bind fun value => (text? value.shape).toOption

/-- The fields of a kind that members without objections fill. -/
def fieldsOf (kind : Kind) (members : List (String × Json)) : Fields where
  number := if kind = .send then textUnder members numberKey else none
  message := textUnder members messageKey

theorem textUnder_concat_same {before : List (String × Json)} {key : String} (value : Json)
    (fresh : before.lookup key = none) :
    textUnder (before ++ [(key, value)]) key = (text? value.shape).toOption := by
  rw [textUnder, lookup_concat_same value fresh]
  rfl

theorem textUnder_concat_other {before : List (String × Json)} {m : String × Json} {key : String}
    (other : m.1 ≠ key) : textUnder (before ++ [m]) key = textUnder before key := by
  rw [textUnder, lookup_concat_other other, textUnder]

/-- Putting fields is a round that looks for the fields of a kind. -/
theorem round_put (kind : Kind) :
    Round kind.fields (fun value => text? value.shape) (fun f m => f.put kind m.1 m.2.shape)
      (fieldsOf kind) where
  ignores before {m} other := by
    cases kind with
    | send =>
      obtain ⟨noNumber, noMessage⟩ : m.1 ≠ numberKey ∧ m.1 ≠ messageKey := by
        simpa only [Kind.fields, List.mem_cons, List.not_mem_nil, or_false, not_or] using other
      simp only [Fields.put, noNumber, noMessage, false_and, if_false, fieldsOf,
        textUnder_concat_other noNumber, textUnder_concat_other noMessage]
    | log =>
      have noMessage : m.1 ≠ messageKey := by
        simpa only [Kind.fields, List.mem_singleton] using other
      simp [Fields.put, noMessage, fieldsOf, textUnder_concat_other]
  checks {before m} passed field := by
    obtain ⟨key, value⟩ := m
    have met : (textUnder before key).isSome ↔ (before.lookup key).isSome :=
      Bool.coe_iff_coe.mpr (passed.isSome_toOption field)
    have kept {k : String} (other : key ≠ k) :
        textUnder (before ++ [(key, value)]) k = textUnder before k :=
      textUnder_concat_other other
    have filled (fresh : ¬ (before.lookup key).isSome) :
        textUnder (before ++ [(key, value)]) key = (text? value.shape).toOption :=
      textUnder_concat_same value (Option.not_isSome_iff_eq_none.mp fresh)
    have distinct : messageKey ≠ numberKey := by decide
    dsimp only
    cases kind with
    | send =>
      obtain rfl | rfl : key = numberKey ∨ key = messageKey := by
        simpa only [Kind.fields, List.mem_cons, List.not_mem_nil, or_false] using field
      · rw [Fields.put, if_pos ⟨rfl, rfl⟩]
        refine if_ctx_congr met (fun _ => rfl) fun fresh => ?_
        simp only [fieldsOf, kept distinct.symm, filled fresh]
        cases text? value.shape <;> rfl
      · rw [Fields.put, if_neg fun h => distinct h.1, if_pos rfl]
        refine if_ctx_congr met (fun _ => rfl) fun fresh => ?_
        simp only [fieldsOf, kept distinct, filled fresh]
        cases text? value.shape <;> rfl
    | log =>
      obtain rfl : key = messageKey := by simpa only [Kind.fields, List.mem_singleton] using field
      rw [Fields.put, if_neg fun h => distinct h.1, if_pos rfl]
      refine if_ctx_congr met (fun _ => rfl) fun fresh => ?_
      simp only [fieldsOf, filled fresh]
      cases text? value.shape <;> rfl

/-! ## What gathered members make up -/

/-- The delivery of one kind that members describe, or what is reported about them. -/
def describedAs (kind : Kind) (members : List (String × Json)) : Except String Delivery := do
  heed (firstObjection kind.fields notText [] members)
  match kind with
  | .send => return send (← required members numberKey) (← required members messageKey)
  | .log => return log (← required members messageKey)

theorem putAll_others (kind : Kind) (f : Fields) (members : List (String × Json)) :
    Fields.putAll kind f (gatheredFrom members).others =
      members.foldlM (fun f m => f.put kind m.1 m.2.shape) f := by
  induction members generalizing f with
  | nil => rfl
  | cons m members ih =>
    rw [List.foldlM_cons]
    by_cases isKind : m.1 = effectKey
    · -- A member that tells the kind is no field of any kind, so it may be left out of the round.
      have skipped : f.put kind m.1 m.2.shape = .ok f := by
        rw [isKind, Fields.put, if_neg fun h => absurd h.1 (by decide), if_neg (by decide)]
      rw [skipped, ok_bind, ← ih f]
      simp [gatheredFrom, isKind]
    · have kept : (gatheredFrom (m :: members)).others =
          (m.1, m.2.shape) :: (gatheredFrom members).others := by simp [gatheredFrom, isKind]
      rw [kept, Fields.putAll]
      exact bind_congr fun f => ih f

theorem required_eq (members : List (String × Json)) (key : String) :
    required members key =
      match textUnder members key with
      | some text => .ok text
      | none => .error (Misfit.missingField key).message := by
  rw [required, textUnder]
  cases members.lookup key with
  | none => rfl
  | some value => cases value <;> rfl

/-- A number that is missing is reported before a message that is missing. -/
theorem finish_fieldsOf (kind : Kind) (members : List (String × Json)) :
    ((fieldsOf kind members).finish kind).mapError Misfit.message =
      match kind with
      | .send => do
        return send (← required members numberKey) (← required members messageKey)
      | .log => do return log (← required members messageKey) := by
  cases kind with
  | send =>
    simp only [required_eq, Fields.finish, fieldsOf, if_true]
    cases textUnder members numberKey with
    | none => rfl
    | some number => cases textUnder members messageKey <;> rfl
  | log =>
    simp only [required_eq, Fields.finish, fieldsOf]
    cases textUnder members messageKey <;> rfl

theorem ofMembers_gatheredFrom (kind : Kind) (members : List (String × Json)) :
    (ofMembers kind (gatheredFrom members).others).mapError Misfit.message =
      describedAs kind members := by
  rw [ofMembers, putAll_others, mapError_bind]
  unfold describedAs
  have start : ({} : Fields) = fieldsOf kind [] := by cases kind <;> rfl
  rw [start]
  cases first : firstObjection kind.fields notText [] members with
  | some text =>
    rw [(round_put kind).foldlM_error notText_eq checked_nil first]
    rfl
  | none =>
    rw [((round_put kind).foldlM_ok notText_eq checked_nil first).1]
    exact finish_fieldsOf kind members

/-- What members make up once they are gathered. -/
def ofGathered (g : Gathered) : Except Misfit Delivery :=
  match g.kind with
  | none => .error (.missingField effectKey)
  | some kind => ofMembers kind g.others

theorem described_of_kind {members : List (String × Json)} {kind : Kind}
    (clear : firstObjection [effectKey] notKind [] members = none)
    (first : members.lookup effectKey = some (.str kind.name)) :
    described members = describedAs kind members := by
  have told : required members effectKey = .ok kind.name := by rw [required, first]
  change (heed (firstObjection [effectKey] notKind [] members) >>= fun _ =>
    required members effectKey >>= _) = _
  rw [clear, told]
  cases kind <;> rfl

theorem described_of_missing {members : List (String × Json)}
    (clear : firstObjection [effectKey] notKind [] members = none)
    (missing : members.lookup effectKey = none) :
    described members = .error (Misfit.missingField effectKey).message := by
  have untold : required members effectKey = .error (Misfit.missingField effectKey).message := by
    rw [required, missing]
    rfl
  change (heed (firstObjection [effectKey] notKind [] members) >>= fun _ =>
    required members effectKey >>= _) = _
  rw [clear, untold]
  rfl

/-- Gathering members and looking at their fields afterwards follows the order of precedence. -/
theorem gather_ofGathered (members : List (String × Json)) :
    (members.foldlM gather {} >>= ofGathered).mapError Misfit.message = described members := by
  have start : ({} : Gathered) = gatheredFrom [] := rfl
  rw [start, mapError_bind]
  cases clear : firstObjection [effectKey] notKind [] members with
  | some text =>
    rw [round_gather.foldlM_error notKind_eq checked_nil clear]
    change _ = heed (firstObjection [effectKey] notKind [] members) >>= _
    rw [clear]
    rfl
  | none =>
    obtain ⟨passes, checked⟩ := round_gather.foldlM_ok notKind_eq checked_nil clear
    rw [passes]
    change (ofGathered (gatheredFrom members)).mapError Misfit.message = _
    cases first : members.lookup effectKey with
    | none =>
      rw [described_of_missing clear first]
      simp [ofGathered, gatheredFrom, first, Except.mapError]
    | some value =>
      -- The value passed the check of the first round, so it names the kind of the second.
      obtain ⟨kind, told⟩ := checked effectKey (.head _) value first
      have named : value = .str kind.name := kindOf_eq_ok_iff.mp told
      rw [described_of_kind clear (named ▸ first), ← ofMembers_gatheredFrom]
      simp [ofGathered, gatheredFrom, first, told, Except.toOption]

/-! ## Decoding objects -/

theorem readKind_chars {value : Json} (fit : value.IntegersFit) {rest : List Char}
    (ends : Delimits rest) :
    readKind (value.chars ++ rest) = ((kindOf value).mapError .unfit).map (·, rest) := by
  obtain ⟨behind, opened, scalar⟩ := readOpening_chars fit ends
  rw [readKind, Payload.readAs_eq, opened]
  cases value with
  | str name =>
    obtain rfl := scalar rfl
    simp only [kindOf, shape, ok_bind, Payload.verdict, pure_eq_ok]
    cases Kind.ofName? name <;> rfl
  | _ => rfl

/-- What reading a member makes of the members before it. A value that is nested too deeply is
malformed, unless a kind should stand in its place. -/
def gatherWithin (g : Gathered) (m : String × Json) : Except Fault Gathered :=
  if m.1 = effectKey ∨ m.2.depth ≤ 126 then (gather g m).mapError .unfit else .error .malformed

/-- A member is read behind its key as it is gathered. -/
theorem readMember_chars (g : Gathered) {m : String × Json} (fit : m.2.IntegersFit)
    {rest : List Char} (ends : Delimits rest) :
    readMember g m.1 (':' :: (m.2.chars ++ rest)) = (gatherWithin g m).map (·, rest) := by
  have colon : readColon (':' :: (m.2.chars ++ rest)) = .ok (m.2.chars ++ rest) :=
    readColon_append blanks_nil _
  unfold gatherWithin gather
  by_cases isKind : m.1 = effectKey
  · rw [if_pos (.inl isKind)]
    by_cases repeated : g.kind.isSome
    · simp [readMember, isKind, repeated, Except.mapError, Except.map]
    · rw [isKind, readMember_effect (by simpa using repeated), colon, ok_bind,
        readKind_chars fit ends, if_pos rfl, if_neg repeated]
      cases kindOf m.2 <;> rfl
  · rw [readMember_other isKind, colon, ok_bind, readShape_chars _ fit ends, if_neg isKind]
    by_cases shallow : m.2.depth ≤ 126
    · rw [budgeted, if_pos (show m.2.depth ≤ nestingLimit - 1 from shallow), if_pos (.inr shallow)]
      rfl
    · rw [budgeted, if_neg (show ¬ m.2.depth ≤ nestingLimit - 1 from shallow),
        if_neg (not_or.mpr ⟨isKind, shallow⟩)]
      rfl

theorem readObject_chars {members : List (String × Json)}
    (fit : ∀ m ∈ members, m.2.IntegersFit) {w : List Char}
    (written : (obj members).chars = '{' :: w) (rest : List Char) :
    readObject (w ++ rest) =
      (members.foldlM gatherWithin {} >>= fun g => (ofGathered g).mapError Fault.unfit).map
        (·, rest) := by
  have reads : ∀ m ∈ members, ∀ g {rest}, Delimits rest →
      readMember g m.1 (':' :: (m.2.chars ++ rest)) = (gatherWithin g m).map (·, rest) :=
    fun m hm g _ ends => readMember_chars g (fit m hm) ends
  rw [readObject, readMembers_chars reads {} written]
  cases members.foldlM gatherWithin {} with
  | error fault => rfl
  | ok g =>
    obtain ⟨kind, others⟩ := g
    cases kind with
    | none => rfl
    | some kind =>
      change (((ofMembers kind others).mapError Fault.unfit) >>= fun d => .ok (d, rest)) =
        ((ofMembers kind others).mapError Fault.unfit).map (·, rest)
      cases ofMembers kind others <;> rfl

/-- A written object is read by gathering its members, whatever follows it. -/
theorem reader_obj_append {members : List (String × Json)}
    (fit : ∀ m ∈ members, m.2.IntegersFit) (rest : List Char) :
    reader ((obj members).chars ++ rest) =
      (members.foldlM gatherWithin {} >>= fun g => (ofGathered g).mapError Fault.unfit).map
        (·, rest) := by
  obtain ⟨w, written⟩ : ∃ w, (obj members).chars = '{' :: w := by
    cases members <;> exact ⟨_, by rw [chars]⟩
  rw [written, List.cons_append, reader_brace, readObject_chars fit written rest]

/-- Members that are not nested too deeply are all gathered. -/
theorem foldlM_gatherWithin {members : List (String × Json)}
    (shallow : ∀ m ∈ members, m.2.depth ≤ 126) (g : Gathered) :
    members.foldlM gatherWithin g = (members.foldlM gather g).mapError Fault.unfit := by
  rw [← foldlM_mapError]
  induction members generalizing g with
  | nil => rfl
  | cons m members ih =>
    rw [List.forall_mem_cons] at shallow
    have here : gatherWithin g m = (gather g m).mapError .unfit := if_pos (.inr shallow.1)
    rw [List.foldlM_cons, List.foldlM_cons, here]
    exact bind_congr fun g => ih shallow.2 g

theorem reader_obj_shallow {members : List (String × Json)}
    (fit : ∀ m ∈ members, m.2.IntegersFit) (shallow : ∀ m ∈ members, m.2.depth ≤ 126)
    (rest : List Char) :
    reader ((obj members).chars ++ rest) =
      ((members.foldlM gather {} >>= ofGathered).mapError Fault.unfit).map (·, rest) := by
  rw [reader_obj_append fit, foldlM_gatherWithin shallow, mapError_bind]

theorem decode_obj {members : List (String × Json)} (fit : ∀ m ∈ members, m.2.IntegersFit)
    (shallow : ∀ m ∈ members, m.2.depth ≤ 126) :
    decode (String.ofList (obj members).chars) =
      (members.foldlM gather {} >>= ofGathered).mapError Fault.unfit := by
  have read := reader_obj_shallow fit shallow []
  rw [List.append_nil] at read
  rw [decode, readAll, String.toList_ofList, read]
  cases (members.foldlM gather {} >>= ofGathered).mapError Fault.unfit <;> rfl

/-- A misfit of a written object is reported whatever follows the object. -/
theorem decode_obj_append_error {members : List (String × Json)}
    (fit : ∀ m ∈ members, m.2.IntegersFit) (shallow : ∀ m ∈ members, m.2.depth ≤ 126)
    {misfit : Misfit} (faulty : members.foldlM gather {} >>= ofGathered = .error misfit)
    (rest : List Char) :
    decode (String.ofList ((obj members).chars ++ rest)) = .error (.unfit misfit) := by
  rw [decode, readAll, String.toList_ofList, reader_obj_shallow fit shallow rest, faulty]
  rfl

/-- The misfit behind a report. -/
theorem exists_of_described {members : List (String × Json)} {report : String}
    (faulty : described members = .error report) :
    ∃ misfit, members.foldlM gather {} >>= ofGathered = .error misfit ∧
      misfit.message = report := by
  rw [← gather_ofGathered] at faulty
  cases made : members.foldlM gather {} >>= ofGathered with
  | error misfit =>
    rw [made] at faulty
    exact ⟨misfit, rfl, Except.error.inj faulty⟩
  | ok d =>
    rw [made] at faulty
    contradiction

/-- A written object is decoded to the delivery that its members describe, and of all that speaks
against them is reported what comes first in the order of precedence. -/
theorem decode_obj_answers (members : List (String × Json))
    (fit : ∀ m ∈ members, m.2.IntegersFit) (shallow : ∀ m ∈ members, m.2.depth ≤ 126) :
    Answers (decode (String.ofList (obj members).chars)) (described members) := by
  rw [decode_obj fit shallow, ← gather_ofGathered]
  cases members.foldlM gather {} >>= ofGathered with
  | error misfit => exact ⟨misfit, rfl, rfl⟩
  | ok d => exact rfl

/-- The kind comes late, a member is unknown, the number is no text and the message is repeated. -/
def tagLast : List (String × Json) :=
  [("note", .arr [.null, .obj [("effect", .int 5)]]), ("message", .str "hi"),
    ("number", .int (-5)), ("effect", .str "send"), ("message", .bool true)]

theorem decode_obj_answers_tagLast :
    (∀ m ∈ tagLast, m.2.IntegersFit) ∧ (∀ m ∈ tagLast, m.2.depth ≤ 126) ∧
      Answers (decode (String.ofList (obj tagLast).chars))
        (.error "invalid type: integer `-5`, expected a string") := by
  have fit : ∀ m ∈ tagLast, m.2.IntegersFit := by
    simp [tagLast, IntegersFit, IntegersFitItems, IntegersFitMembers, Fits]
  have shallow : ∀ m ∈ tagLast, m.2.depth ≤ 126 := by decide
  have reported : described tagLast = .error "invalid type: integer `-5`, expected a string" := rfl
  exact ⟨fit, shallow, reported ▸ decode_obj_answers tagLast fit shallow⟩

end GuardedSms.Delivery
