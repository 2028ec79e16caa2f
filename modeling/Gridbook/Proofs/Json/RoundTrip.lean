import Mathlib
import Gridbook.Json.Reader
import Gridbook.Json.Writer
import Gridbook.Proofs.Number.Digits

/-! # Reading what was written

A value without doubles is read back from its document in either layout, as long as it does not
nest too deep, its integers are short enough and no object has two members of one name. Each part
is read back in front of any text that cannot belong to it.
-/

namespace Gridbook.Json

theorem hexValue?_digitChar {d : Nat} (single : d < 16) : hexValue? d.digitChar = some d := by
  revert d
  decide

theorem fourHex?_hex {unit : Nat} (short : unit < 0x10000) (rest : List Char) :
    fourHex? (Text.hex 4 unit ++ rest) = some (unit, rest) := by
  rw [Text.hex_succ, Text.hex_succ, Text.hex_succ, Text.hex_one (by omega)]
  simp only [List.cons_append, List.nil_append, fourHex?, List.foldlM_cons, List.foldlM_nil]
  rw [hexValue?_digitChar (by omega), hexValue?_digitChar (by omega),
    hexValue?_digitChar (by omega), hexValue?_digitChar (by omega)]
  simp
  omega

theorem codeUnits?_unit {unit : Nat} (short : unit < 0x10000)
    (whole : unit < 0xD800 ∨ 0xDFFF < unit) (rest : List Char) :
    codeUnits? (Text.hex 4 unit ++ rest) = some (Char.ofNat unit, rest) := by
  simp only [codeUnits?, fourHex?_hex short, Option.bind_eq_bind, Option.bind_some,
    Bool.and_eq_true, decide_eq_true_eq]
  rw [if_neg (by omega), if_neg (by omega)]

theorem codeUnits?_pair {n : Nat} (short : n < 0x100000) (rest : List Char) :
    codeUnits? (Text.hex 4 (0xD800 + n / 0x400) ++ (unitEscape (0xDC00 + n % 0x400) ++ rest)) =
      some (Char.ofNat (0x10000 + n), rest) := by
  have joined : 0x10000 + (0xD800 + n / 0x400 - 0xD800) * 0x400 +
      (0xDC00 + n % 0x400 - 0xDC00) = 0x10000 + n := by omega
  simp only [codeUnits?, unitEscape, List.cons_append,
    fourHex?_hex (show 0xD800 + n / 0x400 < 0x10000 by omega),
    fourHex?_hex (show 0xDC00 + n % 0x400 < 0x10000 by omega), Option.bind_eq_bind,
    Option.bind_some, Bool.and_eq_true, decide_eq_true_eq]
  rw [if_pos (by omega), if_pos (by omega), joined]

theorem readChars_plain (fuel start : Nat) {c : Char} (noQuote : c ≠ '"') (noSlash : c ≠ '\\')
    (visible : 32 ≤ c.toNat) (tail : List Char) :
    readChars (fuel + 1) start (c :: tail) = (do
      let (chars, rest) ← readChars fuel start tail
      return (c :: chars, rest)) := by
  rw [readChars.eq_def]
  split <;> simp_all

theorem readChars_unit (fuel start : Nat) {escape tail : List Char} {c : Char}
    (read : codeUnits? escape = some (c, tail)) :
    readChars (fuel + 1) start ('\\' :: 'u' :: escape) = (do
      let (chars, rest) ← readChars fuel start tail
      return (c :: chars, rest)) := by
  rw [readChars, read]

theorem readChars_writeChar (fuel start : Nat) (c : Char) (tail : List Char) :
    readChars (fuel + 1) start (writeChar c ++ tail) = (do
      let (chars, rest) ← readChars fuel start tail
      return (c :: chars, rest)) := by
  have valid : c.toNat < 0xD800 ∨ 0xDFFF < c.toNat ∧ c.toNat < 0x110000 := c.valid
  unfold writeChar
  split
  case h_8 noQuote noSlash _ _ _ _ _ =>
    split
    case isTrue visible =>
      have visible : 32 ≤ c.toNat ∧ c.toNat < 127 := by simpa using visible
      exact readChars_plain fuel start noQuote noSlash visible.1 tail
    case isFalse =>
      split
      case isTrue short =>
        have read := codeUnits?_unit short (by omega) tail
        rw [Char.ofNat_toNat] at read
        exact readChars_unit fuel start read
      case isFalse long =>
        obtain ⟨n, shifted⟩ := Nat.exists_eq_add_of_le (Nat.le_of_not_lt long)
        have read := codeUnits?_pair (n := n) (by omega) tail
        rw [← shifted, Char.ofNat_toNat] at read
        simp only [shifted, Nat.add_sub_cancel_left, List.append_assoc]
        exact readChars_unit fuel start read
  -- The seven characters with an escape of one letter.
  all_goals simp [readChars, escaped?]

theorem readChars_written {fuel start : Nat} {chars : List Char} (enough : chars.length ≤ fuel)
    (tail : List Char) :
    readChars (fuel + 1) start (chars.flatMap writeChar ++ '"' :: tail) = .ok (chars, tail) := by
  induction chars generalizing fuel with
  | nil => simp [readChars]
  | cons c chars ih =>
      obtain ⟨fuel, rfl⟩ := Nat.exists_eq_add_one_of_ne_zero (Nat.ne_zero_of_lt enough)
      have later := ih (Nat.le_of_lt_succ enough)
      rw [List.flatMap_cons, List.append_assoc, readChars_writeChar, later]
      rfl

theorem unitEscape_append_ne_nil (unit : Nat) (more : List Char) : unitEscape unit ++ more ≠ [] :=
  List.cons_ne_nil _ _

theorem writeChar_ne_nil (c : Char) : writeChar c ≠ [] := by
  unfold writeChar
  split
  case h_8 =>
    split
    · exact List.cons_ne_nil _ _
    · split
      · exact List.cons_ne_nil _ _
      · exact unitEscape_append_ne_nil _ _
  all_goals exact List.cons_ne_nil _ _

theorem length_le_written (chars : List Char) :
    chars.length ≤ (chars.flatMap writeChar).length := by
  induction chars with
  | nil => simp
  | cons c chars ih =>
      have some := List.length_pos_iff.mpr (writeChar_ne_nil c)
      simp only [List.flatMap_cons, List.length_append, List.length_cons]
      omega

theorem readString_written (s : String) (tail : List Char) :
    readString (s.toList.flatMap writeChar ++ '"' :: tail) = .ok (s, tail) := by
  have enough := length_le_written s.toList
  rw [readString, readChars_written (by rw [List.length_append]; omega)]
  simp [bind, Except.bind, pure, Except.pure]

/-- A text that does not go on with a number. -/
def EndsNumber : List Char → Prop
  | [] => True
  | c :: _ => c.isDigit = false ∧ c ≠ '.' ∧ c ≠ 'e' ∧ c ≠ 'E'

theorem fractionPart_end {tail : List Char} (ends : EndsNumber tail) :
    fractionPart tail = ([], tail) := by
  cases tail with
  | nil => rfl
  | cons c tail =>
      obtain ⟨-, noPoint, -, -⟩ := ends
      rw [fractionPart.eq_def]
      split <;> simp_all

theorem exponentPart_end {tail : List Char} (ends : EndsNumber tail) :
    exponentPart tail = ([], tail) := by
  cases tail with
  | nil => rfl
  | cons c tail =>
      obtain ⟨-, -, noSmall, noLarge⟩ := ends
      simp [exponentPart, noSmall, noLarge]

theorem span_toDigits (n : Nat) {tail : List Char} (ends : EndsNumber tail) :
    (Nat.toDigits 10 n ++ tail).takeWhile Char.isDigit = Nat.toDigits 10 n ∧
      (Nat.toDigits 10 n ++ tail).dropWhile Char.isDigit = tail := by
  have digits := fun c => Numeral.isDigit_of_mem_toDigits (n := n) (c := c)
  rw [List.takeWhile_append_of_pos digits, List.dropWhile_append_of_pos digits]
  cases tail with
  | nil => simp
  | cons c tail => simp [ends.1]

theorem wholePart_toDigits (n : Nat) {tail : List Char} (ends : EndsNumber tail) :
    wholePart (Nat.toDigits 10 n ++ tail) = (Nat.toDigits 10 n, tail) := by
  have span := span_toDigits n ends
  rw [wholePart.eq_def]
  split
  case h_1 rest shape =>
    by_cases zero : n = 0
    · subst zero
      simpa using shape.symm
    · have head := Numeral.head?_toDigits_ne (Nat.pos_of_ne_zero zero)
      rw [← List.head?_append_of_ne_nil _ Nat.toDigits_ne_nil, shape] at head
      exact absurd rfl head
  case h_2 => rw [span.1, span.2]

theorem showInteger_eq (n : Int) : showInteger false n =
    (if n < 0 then ['-'] else []) ++ Nat.toDigits 10 n.natAbs := by
  simp [showInteger]

theorem readNumber_showInteger {n : Int} (short : digitCount n.natAbs ≤ maxIntegerDigits)
    {tail : List Char} (ends : EndsNumber tail) :
    readNumber (showInteger false n ++ tail) = .ok (.int n, tail) := by
  have whole := wholePart_toDigits n.natAbs ends
  have noneEmpty : (Nat.toDigits 10 n.natAbs).isEmpty = false := by simp
  have spelled := Numeral.ofDigits_toDigits n.natAbs
  have fits : ¬ maxIntegerDigits < (Nat.toDigits 10 n.natAbs).length := Nat.not_lt.mpr short
  rw [showInteger_eq]
  by_cases negative : n < 0
  · have signed : Double.signed true n.natAbs = n := by
      rw [Double.signed, if_pos rfl]
      omega
    simp only [negative, if_true, List.cons_append, List.nil_append, readNumber, whole,
      fractionPart_end ends, exponentPart_end ends, spelled, fits, noneEmpty, signed]
    rfl
  · have signed : Double.signed false n.natAbs = n := by
      simp only [Double.signed, Bool.false_eq_true, if_false]
      omega
    -- Decides the match on the sign.
    have unsigned : ∀ rest, Nat.toDigits 10 n.natAbs ++ tail = '-' :: rest → False := by
      intro rest shape
      obtain ⟨c, digits, first, digit⟩ := Numeral.toDigits_cons n.natAbs
      rw [first, List.cons_append, List.cons.injEq] at shape
      exact ne_of_isDigit digit (by decide) shape.1
    simp only [negative, if_false, List.nil_append, readNumber, whole,
      fractionPart_end ends, exponentPart_end ends, spelled, fits, noneEmpty, signed]
    rfl

/-- A value that is read back from its document, with room for so many containers inside each
other: it has no doubles, its integers are short and no object names a member twice. -/
inductive Plain : Nat → Json → Prop where
  | null {room : Nat} : Plain room .null
  | bool {room : Nat} (b : Bool) : Plain room (.bool b)
  | int {room : Nat} {n : Int} (short : digitCount n.natAbs ≤ maxIntegerDigits) :
      Plain room (.int n)
  | str {room : Nat} (s : String) : Plain room (.str s)
  | arr {room : Nat} {items : List Json} (each : ∀ item ∈ items, Plain room item) :
      Plain (room + 1) (.arr items)
  | obj {room : Nat} {members : List (String × Json)}
      (distinct : (members.map Prod.fst).Nodup) (each : ∀ m ∈ members, Plain room m.2) :
      Plain (room + 1) (.obj members)

/-- The text of a value is read back in front of any text that cannot belong to it. -/
def ReadsBack (layout : Layout) (depth room : Nat) (value : Json) : Prop :=
  ∀ fuel tail, EndsNumber tail → (write layout depth value).length ≤ fuel →
    readValue (fuel + 1) room (write layout depth value ++ tail) = .ok (value, tail)

/-- A text that starts with neither white space, nor a bracket that closes, nor a byte order
mark. -/
inductive Opens : List Char → Prop where
  | cons {c : Char} {s : List Char} (opens : c ∉ [' ', '\t', '\n', '\r', ']', '\x7d', '\uFEFF']) :
      Opens (c :: s)

theorem Opens.append {s : List Char} (opens : Opens s) (tail : List Char) : Opens (s ++ tail) := by
  cases opens with
  | cons opens => exact .cons opens

theorem skipSpace_cons {c : Char} (solid : c ∉ [' ', '\t', '\n', '\r']) (s : List Char) :
    skipSpace (c :: s) = c :: s := by
  simp only [List.mem_cons, not_or] at solid
  simp [skipSpace, solid]

theorem Opens.skipSpace {s : List Char} (opens : Opens s) : skipSpace s = s := by
  cases opens with
  | cons opens => exact skipSpace_cons (fun among => opens (List.mem_append_left _ among)) _

theorem Opens.noMark {s : List Char} (opens : Opens s) : (s.head? == some '\uFEFF') = false := by
  cases opens with
  | cons opens =>
      simp only [List.mem_cons, not_or] at opens
      simp [opens]

theorem opens_write {room : Nat} {value : Json} (plain : Plain room value) (layout : Layout)
    (depth : Nat) : Opens (write layout depth value) := by
  cases plain with
  | null => simpa [write] using .cons (by decide)
  | bool b => cases b <;> simpa [write] using .cons (by decide)
  | int short =>
      rename_i n
      rw [write, showInteger_eq]
      by_cases negative : n < 0
      · simpa [negative] using .cons (by decide)
      · obtain ⟨c, digits, first, digit⟩ := Numeral.toDigits_cons n.natAbs
        simp only [negative, if_false, List.nil_append, first]
        refine .cons fun among => ?_
        fin_cases among <;> exact absurd digit (by decide)
  | str s => exact .cons (by decide)
  | arr each =>
      rename_i items
      cases items <;> exact .cons (by decide)
  | obj distinct each =>
      rename_i members
      cases members <;> exact .cons (by decide)

theorem skipSpace_open (layout : Layout) (depth : Nat) {s : List Char} (bare : skipSpace s = s) :
    skipSpace (layout.open depth ++ s) = s := by
  cases layout with
  | line => exact bare
  | indented =>
      rw [skipSpace, Layout.open, List.dropWhile_append_of_pos, ← skipSpace, bare]
      intro c among
      rcases List.mem_cons.mp among with rfl | among
      · decide
      · rw [List.eq_of_mem_replicate among]
        decide

theorem endsNumber_open (layout : Layout) (depth : Nat) {s : List Char} (ends : EndsNumber s) :
    EndsNumber (layout.open depth ++ s) := by
  cases layout with
  | line => exact ends
  | indented => exact ⟨by decide, by decide, by decide, by decide⟩

/-- Between two items stands a comma, and nothing that reading does not pass over. -/
theorem between_eq (layout : Layout) (depth : Nat) :
    ∃ gap, layout.between depth = ',' :: gap ∧
      ∀ s, Opens s → skipSpace (gap ++ s) = s := by
  cases layout with
  | line => exact ⟨[' '], rfl, fun s opens => by simpa [skipSpace] using opens.skipSpace⟩
  | indented => exact ⟨_, rfl, fun s opens => skipSpace_open .indented depth opens.skipSpace⟩

theorem readValue_string (fuel room : Nat) (s : String) (tail : List Char) :
    readValue (fuel + 1) room (writeString s ++ tail) = .ok (.str s, tail) := by
  have read := readString_written s tail
  simp only [writeString, List.cons_append, List.append_assoc, List.nil_append, readValue, read]
  rfl

theorem readValue_bare (fuel room : Nat) {c : Char} (bare : c ∉ ['"', '[', '\x7b'])
    (s : List Char) : readValue (fuel + 1) room (c :: s) =
      match readLiteral? (c :: s) with
      | some found => .ok found
      | none => readNumber (c :: s) := by
  simp only [List.mem_cons, not_or] at bare
  obtain ⟨noQuote, noArray, noObject, -⟩ := bare
  rw [readValue.eq_def]
  simp only
  split
  case h_1 same => exact absurd (List.cons.inj same).1 noQuote
  case h_2 same | h_3 same => exact absurd (List.cons.inj same).1 noArray
  case h_4 same | h_5 same => exact absurd (List.cons.inj same).1 noObject
  case h_6 => rfl

theorem readLiteral?_eq_none {s : List Char}
    (none : ∀ word ∈ literals.map Prod.fst, word.toList.isPrefixOf s = false) :
    readLiteral? s = .none := by
  rw [readLiteral?, List.findSome?_eq_none_iff]
  rintro ⟨word, value⟩ among
  simp [none word (List.mem_map_of_mem among)]

theorem readLiteral?_integer (n : Int) (tail : List Char) :
    readLiteral? (showInteger false n ++ tail) = none := by
  obtain ⟨c, digits, first, digit⟩ := Numeral.toDigits_cons n.natAbs
  have noLetter : 'n' ≠ c ∧ 't' ≠ c ∧ 'f' ≠ c ∧ 'N' ≠ c ∧ 'I' ≠ c ∧ '-' ≠ c := by
    refine ⟨?_, ?_, ?_, ?_, ?_, ?_⟩
    all_goals exact (ne_of_isDigit digit (by decide)).symm
  rw [showInteger_eq, first]
  apply readLiteral?_eq_none
  intro word among
  by_cases negative : n < 0
  · fin_cases among <;> simp [negative, List.isPrefixOf, noLetter]
  · fin_cases among <;> simp [negative, List.isPrefixOf, noLetter]

theorem readValue_integer {n : Int} (short : digitCount n.natAbs ≤ maxIntegerDigits)
    {tail : List Char} (ends : EndsNumber tail) (fuel room : Nat) :
    readValue (fuel + 1) room (showInteger false n ++ tail) = .ok (.int n, tail) := by
  have number := readNumber_showInteger short ends
  have noLiteral := readLiteral?_integer n tail
  obtain ⟨c, digits, first, digit⟩ := Numeral.toDigits_cons n.natAbs
  obtain ⟨c, rest, shape, bare⟩ : ∃ c rest, showInteger false n ++ tail = c :: rest ∧
      c ∉ ['"', '[', '\x7b'] := by
    rw [showInteger_eq, first]
    by_cases negative : n < 0
    · exact ⟨'-', c :: digits ++ tail, by simp [negative], by decide⟩
    · refine ⟨c, digits ++ tail, by simp [negative], fun among => ?_⟩
      fin_cases among <;> exact absurd digit (by decide)
  rw [shape] at number noLiteral ⊢
  rw [readValue_bare fuel room bare, noLiteral]
  exact number

theorem readValue_items (fuel room : Nat) {s : List Char} {text : List Char} (opens : Opens s)
    (start : skipSpace text = s) :
    readValue (fuel + 1) (room + 1) ('[' :: text) = (do
      let (items, tail) ← readItems fuel room s
      return (.arr items, tail)) := by
  cases opens with
  | cons opens =>
      rw [readValue, start]
      split
      · simp_all
      · rfl

theorem readValue_members (fuel room : Nat) {s : List Char} {text : List Char} (opens : Opens s)
    (start : skipSpace text = s) :
    readValue (fuel + 1) (room + 1) ('\x7b' :: text) = (do
      let (members, tail) ← readMembers fuel room [] s
      return (.obj members, tail)) := by
  cases opens with
  | cons opens =>
      rw [readValue, start]
      split
      · simp_all
      · rfl

-- The induction for a container is on the items that are left. Each is followed by a comma or by
-- the bracket that closes, with white space that the layout puts there, and neither goes on with a
-- number.

theorem readItems_last {fuel room : Nat} {s rest tail : List Char} {item : Json}
    (read : readValue fuel room s = .ok (item, rest)) (close : skipSpace rest = ']' :: tail) :
    readItems (fuel + 1) room s = .ok ([item], tail) := by
  simp [readItems, read, close, bind, Except.bind, pure, Except.pure]

theorem readItems_more {fuel room : Nat} {s rest more tail : List Char} {item : Json}
    {items : List Json} (read : readValue fuel room s = .ok (item, rest))
    (comma : skipSpace rest = ',' :: more)
    (others : readItems fuel room (skipSpace more) = .ok (items, tail)) :
    readItems (fuel + 1) room s = .ok (item :: items, tail) := by
  simp [readItems, read, comma, others, bind, Except.bind, pure, Except.pure]

theorem readMembers_last {fuel room : Nat} {before : List (String × Json)} {name : String}
    {s rest tail : List Char} {value : Json} (bare : skipSpace s = s)
    (read : readValue fuel room s = .ok (value, rest)) (close : skipSpace rest = '\x7d' :: tail) :
    readMembers (fuel + 1) room before (writeString name ++ ':' :: ' ' :: s) =
      .ok (Assoc.set name value before, tail) := by
  have colon := skipSpace_cons (c := ':') (by decide) (' ' :: s)
  have space : skipSpace (' ' :: s) = s := bare
  simp only [writeString, List.cons_append, List.append_assoc, List.nil_append, readMembers,
    readString_written, colon, space, read, close, bind, Except.bind]
  rfl

theorem readMembers_more {fuel room : Nat} {before members : List (String × Json)} {name : String}
    {s rest more tail : List Char} {value : Json} (bare : skipSpace s = s)
    (read : readValue fuel room s = .ok (value, rest)) (comma : skipSpace rest = ',' :: more)
    (others : readMembers fuel room (Assoc.set name value before) (skipSpace more) =
      .ok (members, tail)) :
    readMembers (fuel + 1) room before (writeString name ++ ':' :: ' ' :: s) =
      .ok (members, tail) := by
  have colon := skipSpace_cons (c := ':') (by decide) (' ' :: s)
  have space : skipSpace (' ' :: s) = s := bare
  simp only [writeString, List.cons_append, List.append_assoc, List.nil_append, readMembers,
    readString_written, colon, space, read, comma, others, bind, Except.bind]

variable {layout : Layout} {depth room : Nat}

theorem readItems_written {first : Json} {items : List Json}
    (opens : ∀ item ∈ first :: items, Opens (write layout depth item))
    (each : ∀ item ∈ first :: items, ReadsBack layout depth room item) (fuel : Nat)
    (enough : (write layout depth first).length + (writeItems layout depth items).length ≤ fuel)
    (outer : Nat) (tail : List Char) :
    readItems (fuel + 2) room (write layout depth first ++ (writeItems layout depth items ++
      (layout.open outer ++ ']' :: tail))) = .ok (first :: items, tail) := by
  induction items generalizing first fuel with
  | nil =>
      have ends : EndsNumber (layout.open outer ++ ']' :: tail) :=
        endsNumber_open layout outer ⟨by decide, by decide, by decide, by decide⟩
      have close := skipSpace_open layout outer (skipSpace_cons (c := ']') (by decide) tail)
      exact readItems_last (each first List.mem_cons_self fuel _ ends (by omega)) close
  | cons second items ih =>
      obtain ⟨gap, between, passed⟩ := between_eq layout depth
      simp only [writeItems, between, List.cons_append, List.append_assoc, List.length_cons,
        List.length_append] at enough ⊢
      obtain ⟨fuel, rfl⟩ := Nat.exists_eq_add_one_of_ne_zero (n := fuel) (by omega)
      have others := ih (fun item among => opens item (List.mem_cons_of_mem first among))
        (fun item among => each item (List.mem_cons_of_mem first among)) fuel (by omega)
      have start := (opens second (by simp)).append (writeItems layout depth items ++
        (layout.open outer ++ ']' :: tail))
      -- Of what follows the comma only its opening counts, so it need not be taken apart again.
      generalize write layout depth second ++ (writeItems layout depth items ++
        (layout.open outer ++ ']' :: tail)) = later at others start ⊢
      have ends : EndsNumber (',' :: (gap ++ later)) := ⟨by decide, by decide, by decide, by decide⟩
      have read := each first List.mem_cons_self (fuel + 1) _ ends (by omega)
      refine readItems_more read (skipSpace_cons (by decide) _) ?_
      rw [passed later start]
      exact others

theorem fresh_of_nodup {before members : List (String × Json)} {name : String} {value : Json}
    (distinct : ((before ++ (name, value) :: members).map Prod.fst).Nodup) :
    name ∉ before.map Prod.fst := by
  rw [List.map_append, List.map_cons] at distinct
  exact fun among => (List.nodup_append.mp distinct).2.2 _ among _ List.mem_cons_self rfl

theorem readMembers_written {name : String} {value : Json} {members : List (String × Json)}
    (opens : ∀ m ∈ (name, value) :: members, Opens (write layout depth m.2))
    (each : ∀ m ∈ (name, value) :: members, ReadsBack layout depth room m.2)
    (before : List (String × Json))
    (distinct : ((before ++ (name, value) :: members).map Prod.fst).Nodup) (fuel : Nat)
    (enough : (write layout depth value).length + (writeMembers layout depth members).length ≤ fuel)
    (outer : Nat) (tail : List Char) :
    readMembers (fuel + 2) room before
        (writeString name ++ ':' :: ' ' :: (write layout depth value ++
          (writeMembers layout depth members ++ (layout.open outer ++ '\x7d' :: tail)))) =
        .ok (before ++ (name, value) :: members, tail) := by
  induction members generalizing name value before fuel with
  | nil =>
      have ends : EndsNumber (layout.open outer ++ '\x7d' :: tail) :=
        endsNumber_open layout outer ⟨by decide, by decide, by decide, by decide⟩
      have close := skipSpace_open layout outer (skipSpace_cons (c := '\x7d') (by decide) tail)
      have bare := ((opens (name, value) List.mem_cons_self).append
        (layout.open outer ++ '\x7d' :: tail)).skipSpace
      have read := each (name, value) List.mem_cons_self fuel _ ends (by simp only; omega)
      rw [writeMembers, List.nil_append, readMembers_last bare read close,
        Assoc.set_of_fresh (fresh_of_nodup distinct)]
  | cons second members ih =>
      obtain ⟨nextName, next⟩ := second
      obtain ⟨gap, between, passed⟩ := between_eq layout depth
      simp only [writeMembers, between, List.cons_append, List.append_assoc, List.nil_append,
        List.length_cons, List.length_append] at enough ⊢
      obtain ⟨fuel, rfl⟩ := Nat.exists_eq_add_one_of_ne_zero (n := fuel) (by omega)
      have others := ih (fun m among => opens m (List.mem_cons_of_mem _ among))
        (fun m among => each m (List.mem_cons_of_mem _ among))
        (before ++ [(name, value)]) (by simpa using distinct) fuel (by omega)
      have start : Opens (writeString nextName ++ ':' :: ' ' :: (write layout depth next ++
          (writeMembers layout depth members ++ (layout.open outer ++ '\x7d' :: tail)))) :=
        .cons (by decide)
      generalize writeString nextName ++ ':' :: ' ' :: (write layout depth next ++
        (writeMembers layout depth members ++ (layout.open outer ++ '\x7d' :: tail))) = later
        at others start ⊢
      have bare :=
        ((opens (name, value) List.mem_cons_self).append (',' :: (gap ++ later))).skipSpace
      have ends : EndsNumber (',' :: (gap ++ later)) := ⟨by decide, by decide, by decide, by decide⟩
      have read := each (name, value) List.mem_cons_self (fuel + 1) _ ends (by simp only; omega)
      rw [List.append_assoc, List.singleton_append] at others
      refine readMembers_more bare read (skipSpace_cons (by decide) _) ?_
      rw [passed later start, Assoc.set_of_fresh (fresh_of_nodup distinct)]
      exact others

theorem Plain.readsBack {value : Json} (plain : Plain room value) (layout : Layout) (depth : Nat) :
    ReadsBack layout depth room value := by
  induction plain generalizing depth with
  | null =>
      intro fuel tail _ _
      simp [write, readValue_bare, readLiteral?, literals]
      rfl
  | bool b =>
      intro fuel tail _ _
      cases b
      all_goals
        simp [write, readValue_bare, readLiteral?, literals]
        rfl
  | int short => exact fun fuel tail ends _ => readValue_integer short ends fuel _
  | str s => exact fun fuel tail _ _ => readValue_string fuel _ s tail
  | @arr room items each ih =>
      intro fuel tail _ enough
      cases items with
      | nil => simp [write, readValue, skipSpace]
      | cons first items =>
          simp only [write, List.cons_append, List.append_assoc, List.nil_append, List.length_cons,
            List.length_append] at enough ⊢
          obtain ⟨fuel, rfl⟩ := Nat.exists_eq_add_of_le' (show 2 ≤ fuel by omega)
          have opens := fun item among => opens_write (each item among) layout (depth + 1)
          have read := readItems_written opens (fun item among => ih item among (depth + 1))
            fuel (by omega) depth tail
          have start := (opens first List.mem_cons_self).append
            (writeItems layout (depth + 1) items ++ (layout.open depth ++ ']' :: tail))
          rw [readValue_items _ _ start (skipSpace_open layout _ start.skipSpace), read]
          rfl
  | @obj room members distinct each ih =>
      intro fuel tail _ enough
      cases members with
      | nil => simp [write, readValue, skipSpace]
      | cons first members =>
          obtain ⟨name, value⟩ := first
          simp only [write, List.cons_append, List.append_assoc, List.nil_append, List.length_cons,
            List.length_append] at enough ⊢
          obtain ⟨fuel, rfl⟩ := Nat.exists_eq_add_of_le' (show 2 ≤ fuel by omega)
          have opens := fun m among => opens_write (each m among) layout (depth + 1)
          have read := readMembers_written opens (fun m among => ih m among (depth + 1))
            [] distinct fuel (by omega) depth tail
          have start : Opens (writeString name ++ ':' :: ' ' ::
              (write layout (depth + 1) value ++ (writeMembers layout (depth + 1) members ++
                (layout.open depth ++ '\x7d' :: tail)))) := .cons (by decide)
          rw [readValue_members _ _ start (skipSpace_open layout _ start.skipSpace), read]
          rfl

theorem readWithin_render {room : Nat} {value : Json} (plain : Plain room value) (layout : Layout) :
    readWithin room (value.render layout) = .ok value := by
  have text : (value.render layout).toList = write layout 0 value := by simp [render]
  have opens := opens_write plain layout 0
  have back := plain.readsBack layout 0 _ [] trivial (Nat.le_refl _)
  rw [List.append_nil] at back
  rw [readWithin, text, opens.noMark, opens.skipSpace, back]
  rfl

theorem read_render {value : Json} (plain : Plain maxNesting value) (layout : Layout) :
    read (value.render layout) = .ok value :=
  readWithin_render plain layout

end Gridbook.Json
