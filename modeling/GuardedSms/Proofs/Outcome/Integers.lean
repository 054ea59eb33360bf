import GuardedSms.Proofs.Delivery.Precedence
import GuardedSms.Proofs.Outcome.Reading
import GuardedSms.Proofs.Payload.Integers

/-!
# Integers in outcomes

An outcome whose success holds integers is decoded if and only if all of them are within the bounds
of their type. The first that is not is reported by its name as long as it fits in 64 bits, whatever
stands behind it.

## Main definitions

* `Integers`: a type of payloads that hold integers between two bounds.
* `Integers.DecodedInRange`: what is decoded from the text of a success with some integers.

## Main statements

* `integers_decoded_in_range`: integers, small integers and lists of integers are decoded in range.
-/
namespace GuardedSms.Outcome

open Json Payload
open Delivery (Answers)

variable {α : Type}

/-! ## Texts -/

/-- Integers in decimal, with commas between them. -/
def numbers (ns : List Int) : String := ",".intercalate (ns.map toString)

theorem toList_repr (n : Int) : n.repr.toList = intChars n := by
  cases n <;> simp [Int.repr, intChars]

theorem toList_numbers (ns : List Int) : (numbers ns).toList = listed ns := by
  simp [numbers, listed, Function.comp_def, toList_repr]

/-- The integers behind some of them are behind their commas. -/
theorem numbers_append (before : List Int) (n : Int) (after : List Int) :
    numbers (before ++ n :: after) =
      numbers (before ++ [n]) ++ String.ofList (moreNumbers after) := by
  apply String.toList_injective
  cases before <;> simp [toList_numbers, listed_cons]

/-! ## Successes -/

theorem reader_success (payload : Reader α) (cs : List Char) :
    reader payload ('{' :: (quoted "Success" ++ ':' :: cs)) =
      (payload cs >>= fun p => close (success p.1) p.2) := by
  obtain ⟨k, written, spelt⟩ : ∃ k, quoted "Success" = '"' :: k ∧
      TextSpelling "Success" ('"' :: k) := ⟨_, rfl, textSpelling_quoted "Success"⟩
  have readKey := readString_eq_ok_iff.mpr ⟨k, spelt, (rfl : k ++ ':' :: cs = _)⟩
  have colon : readColon (':' :: cs) = .ok cs := readColon_append blanks_nil cs
  rw [reader_brace rfl, written, List.cons_append, readObject_eq rfl, readKey]
  simp only [ok_bind, readMember_success, readValueOf, colon]
  cases payload cs <;> rfl

section Decoding

variable [Payload α] {text : String}

theorem toList_success (text : String) : ("\x7b\"Success\":" ++ text).toList =
    '{' :: (quoted "Success" ++ ':' :: text.toList) := by
  rw [String.toList_append]
  rfl

theorem decode_success_error {fault : Fault}
    (read : (read text.toList : Except _ (α × _)) = .error fault) :
    (decode ("\x7b\"Success\":" ++ text) : Except _ (Outcome α)) = .error fault := by
  change readAll (reader Payload.read) _ = _
  rw [readAll, toList_success, reader_success, read]
  rfl

theorem decode_success_ok {v : α} (read : read text.toList = .ok (v, ['}'])) :
    decode ("\x7b\"Success\":" ++ text) = .ok (.success v) := by
  change readAll (reader Payload.read) _ = _
  rw [readAll, toList_success, reader_success, read]
  rfl

end Decoding

/-! ## Types of integers -/

theorem message_outOfRange (n : Int) (expected : String) :
    (Misfit.outOfRange n expected).message =
      "invalid value: integer `" ++ toString n ++ "`, expected " ++ expected := by
  have told : (Misfit.outOfRange n expected).message =
    "invalid value: " ++ ("integer `" ++ toString n ++ "`") ++ ", expected " ++ expected := rfl
  have front : "invalid value: integer `" = "invalid value: " ++ "integer `" := by decide
  have behind : "`, expected " = "`" ++ ", expected " := by decide
  rw [told, front, behind]
  simp only [String.append_assoc]

/-- A type of payloads that hold integers between two bounds. -/
structure Integers (α : Type) where
  name : String
  least : Int
  greatest : Int
  /-- The integers that a payload holds. -/
  held : α → List Int
  /-- What stands before the integers in the text of a success. -/
  front : String
  back : String

namespace Integers

def int64 : Integers Int64 where
  name := "i64"
  least := -2 ^ 63
  greatest := 2 ^ 63 - 1
  held v := [v.toInt]
  front := "\x7b\"Success\":"
  back := "\x7d"

def uint8 : Integers UInt8 where
  name := "u8"
  least := 0
  greatest := 255
  held v := [(v.toNat : Int)]
  front := "\x7b\"Success\":"
  back := "\x7d"

def int64s : Integers (List Int64) where
  name := "i64"
  least := -2 ^ 63
  greatest := 2 ^ 63 - 1
  held vs := vs.map Int64.toInt
  front := "\x7b\"Success\":" ++ "["
  back := "]\x7d"

variable (t : Integers α)

/-- The text of a success with some integers. -/
def text (ns : List Int) : String := t.front ++ numbers ns ++ t.back

def Admits (n : Int) : Prop := t.least ≤ n ∧ n ≤ t.greatest

/-- The first of some integers that is out of the bounds. -/
def firstOutside (ns : List Int) : Option Int := ns.find? fun n => n < t.least ∨ t.greatest < n

/-- What is reported about an integer out of the bounds. -/
def refusal (n : Int) : String :=
  "invalid value: integer `" ++ toString n ++ "`, expected " ++ t.name

/-- What is decoded from the text of a success with some integers. -/
structure DecodedInRange [Payload α] (ns : List Int) : Prop where
  /-- If all of them are within the bounds, the success with these integers. -/
  accepted : (∀ n ∈ ns, t.Admits n) →
    ∃ v, t.held v = ns ∧ decode (t.text ns) = .ok (.success v)
  /-- If one of them is not, an error. -/
  refused : (∃ n ∈ ns, ¬ t.Admits n) →
    ∃ fault, (decode (t.text ns) : Except Fault (Outcome α)) = .error fault
  /-- The error names the first of these if it fits in 64 bits. -/
  named : ∀ n, t.firstOutside ns = some n → Fits n →
    Answers (decode (t.text ns) : Except Fault (Outcome α)) (.error (t.refusal n))
  /-- It does so whatever stands behind that integer, be it a text or not. -/
  namedSooner : ∀ before n after, ns = before ++ n :: after → (∀ m ∈ before, t.Admits m) →
    ¬ t.Admits n → Fits n → ∀ rest, Delimits rest.toList →
      Answers (decode (t.front ++ numbers (before ++ [n]) ++ rest) : Except Fault (Outcome α))
        (.error (t.refusal n))

/-- The first integer out of the bounds is refused, whatever stands behind it. -/
def RefusesFirst [Payload α] (ns : List Int) : Prop :=
  ∀ before n after, ns = before ++ n :: after → (∀ m ∈ before, t.Admits m) → ¬ t.Admits n →
    ∀ rest, Delimits rest.toList → ∃ fault,
      (decode (t.front ++ numbers (before ++ [n]) ++ rest) : Except Fault (Outcome α)) =
        .error fault ∧ (Fits n → fault = .unfit (.outOfRange n t.name))

variable {t}

theorem exists_of_firstOutside {ns : List Int} {n : Int} (h : t.firstOutside ns = some n) :
    ∃ before after, ns = before ++ n :: after ∧ (∀ m ∈ before, t.Admits m) ∧ ¬ t.Admits n := by
  obtain ⟨outside, before, after, rfl, inside⟩ := List.find?_eq_some_iff_append.mp h
  refine ⟨before, after, rfl, fun m mem => ?_, ?_⟩
  · have := inside m mem
    simp only [Bool.not_eq_true', decide_eq_false_iff_not] at this
    unfold Admits
    omega
  · simp only [decide_eq_true_eq] at outside
    unfold Admits
    omega

theorem exists_firstOutside {ns : List Int} (h : ∃ n ∈ ns, ¬ t.Admits n) :
    ∃ n, t.firstOutside ns = some n := by
  obtain ⟨n, mem, outside⟩ := h
  rw [← Option.isSome_iff_exists, firstOutside, List.find?_isSome]
  refine ⟨n, mem, ?_⟩
  unfold Admits at outside
  simp only [decide_eq_true_eq]
  omega

theorem answers_refusal {n : Int} {answer : Except Fault (Outcome α)}
    (h : answer = .error (.unfit (.outOfRange n t.name))) : Answers answer (.error (t.refusal n)) :=
  ⟨.outOfRange n t.name, h, message_outOfRange n t.name⟩

variable [Payload α]

/-- It is enough to know what is accepted, and that the first integer out of the bounds is
refused. -/
theorem decodedInRange {ns : List Int} (ends : Delimits t.back.toList)
    (accepted : (∀ n ∈ ns, t.Admits n) →
      ∃ v, t.held v = ns ∧ decode (t.text ns) = .ok (.success v))
    (refuses : t.RefusesFirst ns) : t.DecodedInRange ns := by
  -- The whole text is one of those that may follow the first integer out of the bounds.
  have whole : ∀ n, t.firstOutside ns = some n → ∃ fault,
      (decode (t.text ns) : Except Fault (Outcome α)) = .error fault ∧
        (Fits n → fault = .unfit (.outOfRange n t.name)) := by
    intro n first
    obtain ⟨before, after, split, inside, outside⟩ := exists_of_firstOutside first
    have rest : Delimits (String.ofList (moreNumbers after) ++ t.back).toList := by
      rw [String.toList_append, String.toList_ofList]
      exact delimits_moreNumbers after ends
    have same : t.text ns = t.front ++ numbers (before ++ [n]) ++
        (String.ofList (moreNumbers after) ++ t.back) := by
      rw [text, split, numbers_append]
      simp only [String.append_assoc]
    rw [same]
    exact refuses before n after split inside outside _ rest
  refine ⟨accepted, ?refused, ?named, ?namedSooner⟩
  case refused =>
    intro outside
    obtain ⟨n, first⟩ := exists_firstOutside outside
    obtain ⟨fault, read, -⟩ := whole n first
    exact ⟨fault, read⟩
  case named =>
    intro n first fit
    obtain ⟨fault, read, named⟩ := whole n first
    exact answers_refusal (named fit ▸ read)
  case namedSooner =>
    intro before n after split inside outside fit rest ends
    obtain ⟨fault, read, named⟩ := refuses before n after split inside outside rest ends
    exact answers_refusal (named fit ▸ read)

end Integers

/-! ## Single integers and lists -/

open Integers hiding text

/-- A type of single integers is decoded in range if its reader judges integers by the bounds. -/
theorem decodedInRange_single [Payload α] {toInt : α → Int} {name : String} {least greatest : Int}
    (h : Judges (read : Reader α) toInt name least greatest) (n : Int) :
    DecodedInRange ⟨name, least, greatest, fun v => [toInt v], "\x7b\"Success\":", "\x7d"⟩ [n] := by
  have ends : Delimits "\x7d".toList := blanks_nil.delimits (c := '}') (by decide) []
  refine decodedInRange ends ?accepted ?refuses
  case accepted =>
    intro inside
    obtain ⟨v, rfl, read⟩ := h.accepts (inside n (.head _)) ends
    refine ⟨v, rfl, ?_⟩
    rw [Integers.text, String.append_assoc]
    refine decode_success_ok ?_
    rw [String.toList_append, toList_numbers, listed_cons, moreNumbers_nil, List.append_nil]
    exact read
  case refuses =>
    intro before m after split inside outside rest ends
    obtain ⟨rfl, rfl, rfl⟩ : before = [] ∧ n = m ∧ after = [] := by
      cases before <;> simp_all
    obtain ⟨fault, read, named⟩ := h.refuses outside ends
    refine ⟨fault, ?_, named⟩
    rw [String.append_assoc]
    refine decode_success_error ?_
    rw [String.toList_append, List.nil_append, toList_numbers, listed_cons, moreNumbers_nil,
      List.append_nil]
    exact read

theorem read_bracket (text : String) :
    (read ("[" ++ text).toList : Except Fault (List Int64 × List Char)) =
      readItems readInt64 text.toList := by
  rw [String.toList_append]
  exact readList_append rfl

/-- A list of integers is decoded in range. -/
theorem decodedInRange_int64s (ns : List Int) : int64s.DecodedInRange ns := by
  have skips := reads_readInt64.skips
  have ends : Delimits "]\x7d".toList := blanks_nil.delimits (c := ']') (by decide) _
  refine decodedInRange ends ?accepted ?refuses
  case accepted =>
    intro inside
    obtain ⟨vs, same, read⟩ := judges_readInt64.readItems_accepted skips inside ['}']
    refine ⟨vs, same, ?_⟩
    rw [Integers.text, int64s, String.append_assoc, String.append_assoc]
    refine decode_success_ok ?_
    rw [read_bracket, String.toList_append, toList_numbers]
    exact read
  case refuses =>
    intro before n after split inside outside rest ends
    obtain ⟨fault, read, named⟩ := judges_readInt64.readItems_refused skips inside outside ends
    refine ⟨fault, ?_, named⟩
    rw [int64s, String.append_assoc, String.append_assoc]
    refine decode_success_error ?_
    rw [read_bracket, String.toList_append, toList_numbers]
    exact read

/-- An integer, a small integer and a list of integers are decoded if and only if they are in the
range of their type. The first integer out of the range is named as long as it fits in 64 bits. -/
theorem integers_decoded_in_range :
    (∀ n, int64.DecodedInRange [n]) ∧ (∀ n, uint8.DecodedInRange [n]) ∧
      ∀ ns, int64s.DecodedInRange ns :=
  ⟨decodedInRange_single judges_readInt64, decodedInRange_single judges_readUInt8,
    decodedInRange_int64s⟩

end GuardedSms.Outcome
