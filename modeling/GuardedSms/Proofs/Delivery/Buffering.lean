import GuardedSms.Proofs.Delivery.Precedence
import GuardedSms.Proofs.Json.Values

/-!
# Fields after the whole

The kind of a delivery is judged as soon as it is met, its fields only after the whole array or
object that holds them. So nothing is reported about a field unless the text starts with a complete
array or object; a text that is cut or malformed before its end is reported as such, whatever is
wrong with the fields in front of that place.

## Main definitions

* `OfFields`: the misfits that tell of fields.
* `WholeFront`: a text that starts with a complete array or object.
* `MeetsBadKind`: a text in which a kind is met that is none, or a second one.

## Main statements

* `buffered_readArray`, `buffered_readObject`: what the answers about an array or object say of it.
* `decode_fields_last`: fields are reported after the whole, and the whole counts first.
-/
namespace GuardedSms.Delivery

open Json

/-- A misfit that tells of a field: one that is missing, stands twice or is no text, or of their
number. The kind may be missing, too, but it is judged apart otherwise. -/
def OfFields : Misfit → Prop
  | .missingField _ | .wrongLength .. => True
  | .duplicateField name => name ≠ "effect"
  | .wrongType _ expected => expected = "a string"
  | .outOfRange .. | .bareVariant | .unknownVariant .. => False

/-! ## Texts -/

/-- A value inside the outermost array or object. -/
def Inner : List Char → Prop := ValueText (nestingLimit - 1)

/-- A text that starts, behind blanks, with a complete array or object. -/
def WholeFront (cs : List Char) : Prop :=
  ∃ b w rest, Blanks b ∧ (ArrayText Inner w ∨ ObjectText Inner w) ∧ cs = b ++ (w ++ rest)

/-- A text that opens an array or object. -/
def Opens (cs : List Char) : Prop :=
  ∃ b rest, Blanks b ∧ (cs = b ++ '[' :: rest ∨ cs = b ++ '{' :: rest)

/-- A text that starts with a value that names no kind, or with as much of it as shows that. -/
inductive NamesNoKind : List Char → Prop
  | text {name : String} {w : List Char} (h : TextSpelling name w) (notSend : name ≠ "send")
      (notLog : name ≠ "log") (rest : List Char) : NamesNoKind (w ++ rest)
  | null (rest : List Char) : NamesNoKind (nullWord ++ rest)
  | bool (b : Bool) (rest : List Char) : NamesNoKind (boolWord b ++ rest)
  | number {w rest : List Char} (h : NumberText w) (ends : EndsNumber w rest) :
      NamesNoKind (w ++ rest)
  | array (rest : List Char) : NamesNoKind ('[' :: rest)
  | object (rest : List Char) : NamesNoKind ('{' :: rest)

/-- A text in which the first element of an array names no kind, or the first member of an object
that should name it does not, or there is a second such member. -/
inductive MeetsBadKind : List Char → Prop
  | element {b b' t : List Char} (before : Blanks b) (after : Blanks b') (h : NamesNoKind t) :
      MeetsBadKind (b ++ '[' :: (b' ++ t))
  | member {keys : List String} {b p k b₁ b₂ t : List Char} (blanks : Blanks b)
      (front : Opened Inner keys p) (hk : TextSpelling "effect" k) (before : Blanks b₁)
      (after : Blanks b₂) (h : NamesNoKind t) :
      MeetsBadKind (b ++ (p ++ (k ++ (b₁ ++ ':' :: (b₂ ++ t)))))
  | again {keys : List String} {b p k : List Char} (blanks : Blanks b)
      (front : Opened Inner keys p) (met : "effect" ∈ keys) (hk : TextSpelling "effect" k)
      (rest : List Char) : MeetsBadKind (b ++ (p ++ (k ++ rest)))

/-! ## Kinds -/

/-- The name behind a shape that should name a kind. -/
def name? : Shape → Option String
  | .string s => some s
  | _ => none

theorem readKind_eq (cs : List Char) :
    readKind cs = (readOpening cs >>= fun p =>
      Payload.verdict "variant identifier" name? p.1 >>= fun name =>
        match Kind.ofName? name with
        | some kind => .ok (kind, p.2)
        | none => .error (.unfit (.unknownVariant name Kind.send.name Kind.log.name))) := by
  unfold readKind
  rw [Payload.readAs_eq, bind_assoc]
  refine bind_congr fun p => ?_
  rw [bind_assoc]
  rfl

/-- A kind that is read is a text. -/
theorem exists_of_readKind {kind : Kind} {cs rest : List Char}
    (h : readKind cs = .ok (kind, rest)) : ∃ w, Inner w ∧ skipBlanks cs = w ++ rest := by
  rw [readKind_eq] at h
  obtain ⟨⟨s, left⟩, opened, judged⟩ := bind_eq_ok_iff.mp h
  obtain ⟨name, accepted, told⟩ := bind_eq_ok_iff.mp judged
  obtain ⟨_, rfl⟩ : ∃ t, s = .string t := by cases s <;> simp_all [Payload.verdict, name?]
  obtain ⟨w, ⟨⟩ | ⟨⟩ | ⟨⟩ | spelt, front⟩ := exists_of_readOpening opened (by simp)
  dsimp only at told
  split at told
  · obtain ⟨-, rfl⟩ : _ = kind ∧ left = rest := by simpa using told
    exact ⟨w, (ScalarText.text spelt).valueText _, front⟩
  · contradiction

theorem names_of_ofName? {name : String} (h : Kind.ofName? name = none) :
    name ≠ "send" ∧ name ≠ "log" := by
  constructor <;> rintro rfl <;> contradiction

/-- A misfit that is found where a kind should stand tells that there is none. -/
theorem namesNoKind_of_readKind {cs : List Char} {misfit : Misfit}
    (h : readKind cs = .error (.unfit misfit)) :
    NamesNoKind (skipBlanks cs) ∧ ¬ OfFields misfit := by
  rw [readKind_eq] at h
  cases opened : readOpening cs with
  | error fault =>
    obtain rfl : fault = .unfit misfit := by simpa [opened] using h
    exact absurd opened (noMisfit_readOpening cs misfit)
  | ok p =>
    obtain ⟨s, rest⟩ := p
    rw [opened, ok_bind] at h
    constructor
    · obtain ⟨w, spelt, front⟩ | ⟨negative, left, front, read⟩ | ⟨left, front, -⟩ |
        ⟨left, front, -⟩ := cases_of_readValue opened
      · rw [front]
        cases spelt with
        | null => exact .null rest
        | bool b => exact .bool b rest
        | @string name w spelt =>
          obtain ⟨notSend, notLog⟩ : name ≠ "send" ∧ name ≠ "log" := by
            refine names_of_ofName? ?_
            cases known : Kind.ofName? name with
            | none => rfl
            | some kind => simp [Payload.verdict, name?, known] at h
          exact .text spelt notSend notLog rest
      · obtain ⟨w, number, ends, rfl⟩ := numberText_of_readNumeral read
        rw [front, ← List.append_assoc]
        exact .number number (ends.behind _)
      · rw [front]
        exact .array left
      · rw [front]
        exact .object left
    · cases s with
      | string name =>
        simp only [Payload.verdict, name?, ok_bind] at h
        split at h
        · contradiction
        · obtain rfl : _ = misfit := Fault.unfit.inj (Except.error.inj h)
          simp [OfFields]
      | _ =>
        obtain rfl : _ = misfit := Fault.unfit.inj (Except.error.inj h)
        simp [OfFields]

/-! ## Members -/

theorem takesValues_readMember : TakesValues Inner readMember := by
  intro g key cs g' rest h
  unfold readMember at h
  split at h
  · split at h
    · contradiction
    · obtain ⟨left, colon, later⟩ := bind_eq_ok_iff.mp h
      obtain ⟨⟨kind, behind⟩, read, done⟩ := bind_eq_ok_iff.mp later
      obtain ⟨-, rfl⟩ : _ = g' ∧ behind = rest := by simpa using done
      exact takes_readColon exists_of_readKind (by rw [colon]; exact read)
  · obtain ⟨left, colon, later⟩ := bind_eq_ok_iff.mp h
    obtain ⟨⟨shape, behind⟩, read, done⟩ := bind_eq_ok_iff.mp later
    obtain ⟨-, rfl⟩ : _ = g' ∧ behind = rest := by simpa using done
    exact takes_readColon exists_of_readShape (by rw [colon]; exact read)

/-- A kind is met no sooner than its key. -/
def KindMet (keys : List String) (g : Gathered) : Prop := g.kind.isSome → "effect" ∈ keys

theorem kindMet_readMember {keys : List String} {g g' : Gathered} {key : String}
    {cs rest : List Char} (met : KindMet keys g) (h : readMember g key cs = .ok (g', rest)) :
    KindMet (keys ++ [key]) g' := by
  by_cases isKind : key = "effect"
  · subst isKind
    intro _
    simp
  · rw [readMember_other isKind] at h
    obtain ⟨left, colon, later⟩ := bind_eq_ok_iff.mp h
    obtain ⟨⟨shape, behind⟩, read, done⟩ := bind_eq_ok_iff.mp later
    obtain ⟨rfl, -⟩ : { g with others := g.others ++ [(key, shape)] } = g' ∧ behind = rest := by
      simpa using done
    intro there
    exact List.mem_append_left _ (met there)

/-- A misfit of a member tells of its kind: there is one already, or it is none. -/
theorem cases_of_readMember {g : Gathered} {key : String} {cs : List Char} {misfit : Misfit}
    (h : readMember g key cs = .error (.unfit misfit)) :
    key = "effect" ∧ ¬ OfFields misfit ∧ (g.kind.isSome ∨ ∃ b b' t, Blanks b ∧ Blanks b' ∧
      NamesNoKind t ∧ cs = b ++ ':' :: (b' ++ t)) := by
  by_cases isKind : key = "effect"
  · refine ⟨isKind, ?_⟩
    subst isKind
    cases met : g.kind with
    | some kind =>
      obtain rfl : .duplicateField "effect" = misfit := by
        simpa [readMember, effectKey, met] using h
      exact ⟨by simp [OfFields], .inl rfl⟩
    | none =>
      replace h := (readMember_effect met cs).symm.trans h
      cases colon : readColon cs with
      | error fault =>
        obtain rfl : fault = .unfit misfit := by simpa [colon] using h
        exact absurd colon (noMisfit_readColon cs misfit)
      | ok left =>
        obtain ⟨b, before, rfl⟩ := exists_of_readColon colon
        obtain ⟨b', after, split⟩ := exists_blanks left
        obtain ⟨noKind, notField⟩ : NamesNoKind (skipBlanks left) ∧ ¬ OfFields misfit := by
          refine namesNoKind_of_readKind ?_
          cases read : readKind left with
          | error fault => simpa [colon, read] using h
          | ok p => simp [colon, read] at h
        exact ⟨notField, .inr ⟨b, b', _, before, after, noKind, by rw [← split]⟩⟩
  · rw [readMember_other isKind] at h
    have none : NoMisfit (readColon cs >>= fun cs => readShape (nestingLimit - 1) cs >>= fun p =>
        pure ({ g with others := g.others ++ [(key, p.1)] }, p.2)) :=
      (noMisfit_readColon cs).bind fun _ => (noMisfit_readShape _ _).bind fun _ => by simp
    exact absurd h (none misfit)

/-! ## Arrays and objects -/

/-- What an answer about an array or object says of the text: behind the whole of it fields are
looked at, and before that a misfit tells of a kind. -/
def Buffered (cs : List Char) : Except Fault (Delivery × List Char) → Prop
  | .ok _ => WholeFront cs
  | .error (.unfit misfit) => WholeFront cs ∨ MeetsBadKind cs ∧ ¬ OfFields misfit
  | .error _ => True

theorem Buffered.of_whole {cs : List Char} (whole : WholeFront cs)
    (read : Except Fault (Delivery × List Char)) : Buffered cs read :=
  match read with
  | .ok _ => whole
  | .error (.unfit _) => .inl whole
  | .error .endOfText | .error .malformed => trivial

theorem WholeFront.behind {cs b : List Char} (h : WholeFront cs) (blanks : Blanks b) :
    WholeFront (b ++ cs) := by
  obtain ⟨b', w, rest, blanks', whole, rfl⟩ := h
  exact ⟨b ++ b', w, rest, List.forall_mem_append.mpr ⟨blanks, blanks'⟩, whole, by simp⟩

theorem MeetsBadKind.behind {cs b : List Char} (h : MeetsBadKind cs) (blanks : Blanks b) :
    MeetsBadKind (b ++ cs) := by
  cases h with
  | element before after h =>
    rw [← List.append_assoc]
    exact .element (List.forall_mem_append.mpr ⟨blanks, before⟩) after h
  | member blanks' front hk before after h =>
    rw [← List.append_assoc]
    exact .member (List.forall_mem_append.mpr ⟨blanks, blanks'⟩) front hk before after h
  | again blanks' front met hk rest =>
    rw [← List.append_assoc]
    exact .again (List.forall_mem_append.mpr ⟨blanks, blanks'⟩) front met hk rest

theorem Buffered.behind {cs b : List Char} {read : Except Fault (Delivery × List Char)}
    (h : Buffered cs read) (blanks : Blanks b) : Buffered (b ++ cs) read :=
  match read with
  | .ok _ => WholeFront.behind h blanks
  | .error (.unfit _) => h.imp (·.behind blanks) fun bad => ⟨bad.1.behind blanks, bad.2⟩
  | .error .endOfText | .error .malformed => trivial

theorem buffered_readArray (cs : List Char) : Buffered ('[' :: cs) (readArray cs) := by
  obtain ⟨b, blanks, split⟩ := exists_blanks cs
  rw [readArray]
  split
  · trivial
  · rename_i rest closing
    have empty : ArrayText Inner ('[' :: (b ++ [']'])) := ⟨[], .empty blanks⟩
    refine .of_whole ⟨[], '[' :: (b ++ [']']), rest, blanks_nil, .inl empty, ?_⟩ _
    rw [split, closing]
    simp
  · cases told : readKind (skipBlanks cs) with
    | error fault =>
      cases fault with
      | endOfText | malformed => trivial
      | unfit misfit =>
        obtain ⟨noKind, notField⟩ := namesNoKind_of_readKind told
        rw [skipBlanks_skipBlanks] at noKind
        have bad : MeetsBadKind ('[' :: (b ++ skipBlanks cs)) := .element blanks_nil blanks noKind
        rw [← split] at bad
        exact .inr ⟨bad, notField⟩
    | ok p =>
      obtain ⟨kind, behind⟩ := p
      rw [ok_bind]
      dsimp only
      cases items : readMoreItems (readShape (nestingLimit - 1)) behind.length behind with
      | error fault =>
        have none := noMisfit_readMoreItems (noMisfit_readShape (nestingLimit - 1)) behind.length
          behind
        cases fault with
        | endOfText | malformed => trivial
        | unfit misfit => exact absurd items (none misfit)
      | ok p =>
        obtain ⟨shapes, rest⟩ := p
        have sound : ∀ {cs s rest}, readShape (nestingLimit - 1) cs = .ok (s, rest) →
            ∃ w, (fun _ => Inner : Spelling Shape) s w ∧ skipBlanks cs = w ++ rest :=
          exists_of_readShape
        obtain ⟨m, more, rfl⟩ := exists_of_readMoreItems sound items
        obtain ⟨w, first, front⟩ := exists_of_readKind told
        rw [skipBlanks_skipBlanks] at front
        have array : ArrayText Inner ('[' :: (b ++ (w ++ m))) :=
          ⟨.string kind.name :: shapes, .items blanks first more⟩
        refine .of_whole ⟨[], _, rest, blanks_nil, .inl array, ?_⟩ _
        rw [split, front]
        simp

/-- A member whose misfit is reported shows a bad kind. -/
theorem meetsBadKind_of_misfitAt {misfit : Misfit} {cs : List Char}
    (h : MisfitAt Inner readMember KindMet misfit cs) : MeetsBadKind cs ∧ ¬ OfFields misfit := by
  obtain @⟨keys, key, p, k, left, g, front, hk, state, refused⟩ := h
  obtain ⟨rfl, notField, met | ⟨b, b', t, before, after, noKind, rfl⟩⟩ :=
    cases_of_readMember refused
  · exact ⟨.again blanks_nil front (state met) hk left, notField⟩
  · exact ⟨.member blanks_nil front hk before after noKind, notField⟩

theorem buffered_readObject (cs : List Char) : Buffered ('{' :: cs) (readObject cs) := by
  have read : ReadBehind Inner readMember KindMet ['{'] cs (readMembers readMember {} cs) :=
    readBehind_readMembers takesValues_readMember kindMet_readMember (by simp [KindMet]) cs
  rw [readObject]
  cases members : readMembers readMember {} cs with
  | error fault =>
    rw [members] at read
    cases fault with
    | endOfText | malformed => trivial
    | unfit misfit => exact .inr (meetsBadKind_of_misfitAt read)
  | ok p =>
    rw [members] at read
    obtain ⟨w, object, rfl⟩ := read
    exact .of_whole ⟨[], '{' :: w, p.2, blanks_nil, .inr object, by simp⟩ _

/-! ## Whole texts -/

theorem Opens.buffered {cs : List Char} (h : Opens cs) : Buffered cs (reader cs) := by
  obtain ⟨b, rest, blanks, rfl | rfl⟩ := h
  · have read : reader (b ++ '[' :: rest) = readArray rest := by
      rw [reader, ← readOpening_skipBlanks, skipBlanks_append blanks]
      rfl
    rw [read]
    exact (buffered_readArray rest).behind blanks
  · have read : reader (b ++ '{' :: rest) = readObject rest := by
      rw [reader, ← readOpening_skipBlanks, skipBlanks_append blanks]
      rfl
    rw [read]
    exact (buffered_readObject rest).behind blanks

/-- A text that opens neither an array nor an object has no fields. -/
theorem not_ofFields_of_reader {cs : List Char} (closed : ¬ Opens cs) {misfit : Misfit}
    (h : reader cs = .error (.unfit misfit)) : ¬ OfFields misfit := by
  obtain ⟨b, blanks, split⟩ := exists_blanks cs
  unfold reader at h
  cases opened : readOpening cs with
  | error fault =>
    obtain rfl : fault = .unfit misfit := by simpa [opened] using h
    exact absurd opened (noMisfit_readOpening cs misfit)
  | ok p =>
    obtain ⟨s, rest⟩ := p
    rw [opened, ok_bind] at h
    cases s with
    | sequence =>
      obtain ⟨w, ⟨⟩, front⟩ := exists_of_readOpening opened (by simp)
      exact absurd ⟨b, rest, blanks, .inl (split.trans (congrArg _ front))⟩ closed
    | map =>
      obtain ⟨w, ⟨⟩, front⟩ := exists_of_readOpening opened (by simp)
      exact absurd ⟨b, rest, blanks, .inr (split.trans (congrArg _ front))⟩ closed
    | _ =>
      obtain rfl : _ = misfit := Fault.unfit.inj (Except.error.inj h)
      simp [OfFields]

/-- An answer about a whole text is that of the reader, unless something is left. -/
theorem decode_eq_error {text : String} {misfit : Misfit}
    (h : decode text = .error (.unfit misfit)) :
    reader text.toList = .error (.unfit misfit) := by
  rw [decode, readAll] at h
  cases read : reader text.toList with
  | error fault => simpa [read] using h
  | ok p =>
    simp only [read, ok_bind] at h
    split at h <;> simp at h

theorem decode_eq_ok {text : String} {d : Delivery} (h : decode text = .ok d) :
    ∃ rest, reader text.toList = .ok (d, rest) := by
  obtain ⟨⟨d', rest⟩, read, done⟩ := bind_eq_ok_iff.mp h
  dsimp only at done
  split at done
  · obtain rfl : d' = d := by simpa using done
    exact ⟨rest, read⟩
  · contradiction

/-- Misfits of fields are reported behind a whole array or object only. So an array or object that
is cut or malformed before its end is reported as such, unless a bad kind is met before that. Once
an object is complete, what is wrong with it is reported whatever follows. -/
theorem decode_fields_last (text : String) :
    (∀ misfit, decode text = .error (.unfit misfit) → OfFields misfit →
      WholeFront text.toList) ∧
    (Opens text.toList → ¬ WholeFront text.toList → ¬ MeetsBadKind text.toList →
      decode text = .error .endOfText ∨ decode text = .error .malformed) ∧
    ∀ members rest report, (∀ m ∈ members, m.2.IntegersFit) → (∀ m ∈ members, m.2.depth ≤ 126) →
      described members = .error report → text.toList = (obj members).chars ++ rest →
      Answers (decode text) (.error report) := by
  refine ⟨?fields, ?cut, ?complete⟩
  case fields =>
    intro misfit reported ofFields
    have read := decode_eq_error reported
    by_cases opened : Opens text.toList
    · have buffered := opened.buffered
      rw [read] at buffered
      exact buffered.resolve_right fun bad => bad.2 ofFields
    · exact absurd ofFields (not_ofFields_of_reader opened read)
  case cut =>
    intro opened cut noBadKind
    have buffered := opened.buffered
    cases answer : decode text with
    | ok d =>
      obtain ⟨rest, read⟩ := decode_eq_ok answer
      rw [read] at buffered
      exact absurd buffered cut
    | error fault =>
      cases fault with
      | endOfText => exact .inl rfl
      | malformed => exact .inr rfl
      | unfit misfit =>
        rw [decode_eq_error answer] at buffered
        exact buffered.elim (absurd · cut) (absurd ·.1 noBadKind)
  case complete =>
    intro members rest report fit shallow faulty front
    obtain ⟨misfit, made, worded⟩ := exists_of_described faulty
    have reported := decode_obj_append_error fit shallow made rest
    rw [← front, String.ofList_toList] at reported
    exact ⟨misfit, reported, worded⟩

/-! ## A text that is cut -/

theorem mem_of_moreItemsSpelling {α : Type} {item : Spelling α} {xs : List α} {m : List Char}
    (h : MoreItemsSpelling item xs m) : ']' ∈ m := by
  induction h with
  | close blanks => simp
  | item _ _ _ _ ih => simp [ih]

/-- What is complete is closed. -/
theorem WholeFront.mem {cs : List Char} (h : WholeFront cs) : ']' ∈ cs ∨ '}' ∈ cs := by
  obtain ⟨b, w, rest, -, ⟨shapes, array⟩ | object, rfl⟩ := h
  · cases array with
    | empty => simp
    | items _ _ more => simp [mem_of_moreItemsSpelling more]
  · cases object <;> simp

/-- A character of a string stands in its spelling, or there is an escape. -/
theorem mem_of_charsSpelling {chars w : List Char} (h : CharsSpelling chars w) {c : Char}
    (mem : c ∈ chars) : c ∈ w ∨ '\\' ∈ w := by
  induction h with
  | close => contradiction
  | @char d chars w m first more ih =>
    obtain rfl | later := List.mem_cons.mp mem
    · cases first <;> simp
    · exact (ih later).imp (List.mem_append_right w) (List.mem_append_right w)

theorem mem_of_textSpelling {w : List Char} (h : TextSpelling "effect" w) :
    'f' ∈ w ∨ '\\' ∈ w := by
  obtain ⟨chars⟩ := h
  exact (mem_of_charsSpelling chars (c := 'f') (by decide)).imp (.tail _) (.tail _)

/-- A kind stands in an array or behind its key. -/
theorem MeetsBadKind.mem {cs : List Char} (h : MeetsBadKind cs) :
    '[' ∈ cs ∨ 'f' ∈ cs ∨ '\\' ∈ cs := by
  cases h with
  | element => simp
  | member _ _ hk => obtain h | h := mem_of_textSpelling hk <;> simp [h]
  | again _ _ _ hk => obtain h | h := mem_of_textSpelling hk <;> simp [h]

/-- The message is no text, but the object is complete. What follows it is no blank. -/
def wrongMembers : List (String × Json) := [("effect", .str "log"), ("message", .int 1)]

def wrongMessage : String := String.ofList ((obj wrongMembers).chars ++ [',', '['])

/-- The message is no text and stands twice, and the text is cut behind the next key. -/
def cutBehindKey : String := " \x7b\"message\":1,\"message\":2,\"number\":"

theorem decode_fields_last_wrongMessage :
    (Answers (decode wrongMessage) (.error "invalid type: integer `1`, expected a string") ∧
      WholeFront wrongMessage.toList) ∧
    (Opens cutBehindKey.toList ∧ ¬ WholeFront cutBehindKey.toList ∧
      ¬ MeetsBadKind cutBehindKey.toList ∧
      (decode cutBehindKey = .error .endOfText ∨ decode cutBehindKey = .error .malformed)) := by
  constructor
  · have fit : ∀ m ∈ wrongMembers, m.2.IntegersFit := by simp [wrongMembers, IntegersFit, Fits]
    have shallow : ∀ m ∈ wrongMembers, m.2.depth ≤ 126 := by decide
    have faulty : described wrongMembers =
        .error "invalid type: integer `1`, expected a string" := rfl
    have made : wrongMembers.foldlM gather {} >>= ofGathered =
        .error (.wrongType (.integer 1) "a string") := rfl
    have reported : decode wrongMessage = .error (.unfit (.wrongType (.integer 1) "a string")) :=
      decode_obj_append_error fit shallow made _
    have ofFields : OfFields (.wrongType (.integer 1) "a string") := rfl
    exact ⟨(decode_fields_last wrongMessage).2.2 _ _ _ fit shallow faulty String.toList_ofList,
      (decode_fields_last wrongMessage).1 _ reported ofFields⟩
  · have opened : Opens cutBehindKey.toList := ⟨[' '], _, by simp [Blanks], .inr rfl⟩
    have cut : ¬ WholeFront cutBehindKey.toList := fun whole => absurd whole.mem (by decide)
    have noBadKind : ¬ MeetsBadKind cutBehindKey.toList := fun bad => absurd bad.mem (by decide)
    exact ⟨opened, cut, noBadKind, (decode_fields_last cutBehindKey).2.1 opened cut noBadKind⟩

end GuardedSms.Delivery
