import Gridbook.Proofs.Number.Digits
import Gridbook.Text.Percent

/-! # Quoted text loses nothing

A reader of quoted texts and of lists of them. It gives back every list of names that a message
shows, so that the message says exactly which names they are.
-/

namespace Gridbook.Text

/-- The character whose code the first hexadecimal digits of a text spell. -/
def readHex (width : Nat) (s : List Char) : Option (Char × List Char) := do
  let code ← (s.take width).foldlM (fun n c => (Percent.hexValue? c).map (n * 16 + ·)) 0
  some (Char.ofNat code, s.drop width)

/-- The character for which a text stands behind a backslash. -/
def readEscape : List Char → Option (Char × List Char)
  | 'n' :: rest => some ('\n', rest)
  | 'r' :: rest => some ('\r', rest)
  | 't' :: rest => some ('\t', rest)
  | 'x' :: rest => readHex 2 rest
  | 'u' :: rest => readHex 4 rest
  | 'U' :: rest => readHex 8 rest
  | c :: rest => some (c, rest)
  | [] => none

/-- What stands before the closing quote. -/
def readInside (quote : Char) : Nat → List Char → Option (List Char × List Char)
  | fuel + 1, '\\' :: rest => do
      let (c, rest) ← readEscape rest
      let (chars, rest) ← readInside quote fuel rest
      some (c :: chars, rest)
  | fuel + 1, c :: rest =>
      if c = quote then some ([], rest)
      else do
        let (chars, rest) ← readInside quote fuel rest
        some (c :: chars, rest)
  | _, _ => none

/-- A text between two single or two double quotes. -/
def readQuoted : List Char → Option (String × List Char)
  | quote :: rest => do
      guard (quote = '\'' ∨ quote = '"')
      let (chars, rest) ← readInside quote rest.length rest
      some (String.ofList chars, rest)
  | [] => none

/-- Quoted texts with commas between them, up to a closing bracket. -/
def readItems : Nat → List Char → Option (List String)
  | fuel + 1, s => do
      let (name, rest) ← readQuoted s
      match rest with
      | [']'] => some [name]
      | ',' :: ' ' :: rest => (name :: ·) <$> readItems fuel rest
      | _ => none
  | 0, _ => none

def readList (text : String) : Option (List String) :=
  match text.toList with
  | ['[', ']'] => some []
  | '[' :: rest => readItems rest.length rest
  | _ => none

theorem length_hex {width n : Nat} (fits : n < 16 ^ (width + 1)) :
    (hex (width + 1) n).length = width + 1 := by
  induction width generalizing n with
  | zero => rw [hex_one (by simpa using fits), List.length_singleton]
  | succ width ih =>
      rw [pow_succ] at fits
      rw [hex_succ, List.length_append, ih (by omega), List.length_singleton]

theorem hexValue?_digitChar {d : Nat} (single : d < 16) :
    Percent.hexValue? d.digitChar = some d := by
  revert d
  decide

theorem foldlM_hex {width n : Nat} (fits : n < 16 ^ (width + 1)) :
    (hex (width + 1) n).foldlM (fun n c => (Percent.hexValue? c).map (n * 16 + ·)) 0 = some n := by
  induction width generalizing n with
  | zero =>
      have single : n < 16 := by simpa using fits
      simp [hex_one single, hexValue?_digitChar single]
  | succ width ih =>
      rw [pow_succ] at fits
      rw [hex_succ, List.foldlM_append, ih (by omega)]
      simp [hexValue?_digitChar (show n % 16 < 16 by omega)]
      omega

theorem readHex_hex {width : Nat} {c : Char} (fits : c.toNat < 16 ^ (width + 1))
    (rest : List Char) :
    readHex (width + 1) (hex (width + 1) c.toNat ++ rest) = some (c, rest) := by
  have length := length_hex fits
  rw [readHex, List.take_left' length, List.drop_left' length, foldlM_hex fits]
  simp

theorem readInside_quotedChar {quote : Char} (mark : quote = '\'' ∨ quote = '"') (fuel : Nat)
    (c : Char) (rest : List Char) :
    readInside quote (fuel + 1) (quotedChar quote c ++ rest) = (do
      let (chars, rest) ← readInside quote fuel rest
      some (c :: chars, rest)) := by
  have escape {s : List Char} (reads : readEscape s = some (c, rest)) :
      readInside quote (fuel + 1) ('\\' :: s) = (do
        let (chars, rest) ← readInside quote fuel rest
        some (c :: chars, rest)) := by
    rw [readInside, reads]
    rfl
  have code : c.toNat < 0x110000 := by
    have valid : c.toNat < 0xD800 ∨ 0xDFFF < c.toNat ∧ c.toNat < 0x110000 := c.valid
    omega
  unfold quotedChar
  split_ifs with special newline carriage tab printable low middle
  · apply escape
    rw [Bool.or_eq_true, beq_iff_eq, beq_iff_eq] at special
    rcases mark with rfl | rfl <;> rcases special with rfl | rfl <;> rfl
  · obtain rfl := beq_iff_eq.mp newline
    exact escape rfl
  · obtain rfl := beq_iff_eq.mp carriage
    exact escape rfl
  · obtain rfl := beq_iff_eq.mp tab
    exact escape rfl
  · rw [Bool.or_eq_true, beq_iff_eq, beq_iff_eq, not_or] at special
    rw [List.singleton_append, readInside.eq_def]
    split <;> simp_all
  · exact escape (readHex_hex low rest)
  · exact escape (readHex_hex middle rest)
  · exact escape (readHex_hex (Nat.lt_trans code (by decide)) rest)

theorem readInside_quoted {quote : Char} (mark : quote = '\'' ∨ quote = '"') {fuel : Nat}
    {chars : List Char} (enough : chars.length < fuel) (rest : List Char) :
    readInside quote fuel (chars.flatMap (quotedChar quote) ++ quote :: rest) =
      some (chars, rest) := by
  induction chars generalizing fuel with
  | nil =>
      obtain ⟨fuel, rfl⟩ := Nat.exists_eq_add_one_of_ne_zero (Nat.ne_zero_of_lt enough)
      rcases mark with rfl | rfl <;> simp [readInside]
  | cons c chars ih =>
      obtain ⟨fuel, rfl⟩ := Nat.exists_eq_add_one_of_ne_zero (Nat.ne_zero_of_lt enough)
      rw [List.flatMap_cons, List.append_assoc, readInside_quotedChar mark,
        ih (Nat.lt_of_succ_lt_succ enough)]
      rfl

theorem quotedChar_ne_nil (quote c : Char) : quotedChar quote c ≠ [] := by
  unfold quotedChar
  split_ifs <;> exact List.cons_ne_nil _ _

theorem quoteFor_cases (s : List Char) : quoteFor s = '\'' ∨ quoteFor s = '"' := by
  unfold quoteFor
  split
  · exact .inr rfl
  · exact .inl rfl

theorem length_le_quoted (quote : Char) (chars : List Char) :
    chars.length ≤ (chars.flatMap (quotedChar quote)).length := by
  induction chars with
  | nil => simp
  | cons c chars ih =>
      have some := List.length_pos_iff.mpr (quotedChar_ne_nil quote c)
      simp only [List.flatMap_cons, List.length_append, List.length_cons]
      omega

theorem toList_quoted (s : String) : (quoted s).toList =
    quoteFor s.toList :: s.toList.flatMap (quotedChar (quoteFor s.toList)) ++
      [quoteFor s.toList] := by
  rw [quoted, String.toList_ofList]

theorem readQuoted_quoted (s : String) (rest : List Char) :
    readQuoted ((quoted s).toList ++ rest) = some (s, rest) := by
  have within := length_le_quoted (quoteFor s.toList) s.toList
  have enough : s.toList.length < (s.toList.flatMap (quotedChar (quoteFor s.toList)) ++
      quoteFor s.toList :: rest).length := by
    rw [List.length_append, List.length_cons]
    omega
  have read := readInside_quoted (quoteFor_cases s.toList) enough rest
  rw [toList_quoted, List.append_assoc, List.cons_append, List.singleton_append, readQuoted, read]
  simp [quoteFor_cases s.toList]

theorem readItems_quoted {first : String} {others : List String} {fuel : Nat}
    (enough : (", ".intercalate ((first :: others).map quoted)).length < fuel) :
    readItems fuel ((", ".intercalate ((first :: others).map quoted)).toList ++ [']']) =
      some (first :: others) := by
  induction others generalizing first fuel with
  | nil =>
      obtain ⟨fuel, rfl⟩ := Nat.exists_eq_add_one_of_ne_zero (Nat.ne_zero_of_lt enough)
      rw [List.map_singleton, String.intercalate_singleton, readItems, readQuoted_quoted]
      rfl
  | cons second others ih =>
      obtain ⟨fuel, rfl⟩ := Nat.exists_eq_add_one_of_ne_zero (Nat.ne_zero_of_lt enough)
      have some : (second :: others).map quoted ≠ [] := by simp
      rw [List.map_cons, String.intercalate_cons_of_ne_nil some] at enough ⊢
      simp only [String.length_append] at enough
      have later : readItems fuel
          ((", ".intercalate ((second :: others).map quoted)).toList ++ [']']) =
            .some (second :: others) := by
        apply ih
        have comma : ", ".length = 2 := rfl
        omega
      have comma : ", ".toList = [',', ' '] := rfl
      rw [String.toList_append, String.toList_append, List.append_assoc, List.append_assoc,
        readItems, readQuoted_quoted, comma, List.cons_append, List.singleton_append]
      simp only [Option.bind_eq_bind, Option.bind_some, later]
      rfl

theorem intercalate_quoted_ne (first : String) (others : List String) :
    (", ".intercalate ((first :: others).map quoted)).toList ≠ [] := by
  cases others with
  | nil => simp [toList_quoted]
  | cons second others => simp [String.intercalate_cons_of_ne_nil, toList_quoted]

theorem readList_quotedList (names : List String) : readList (quotedList names) = some names := by
  cases names with
  | nil => rfl
  | cons first others =>
      have shown : (quotedList (first :: others)).toList =
          '[' :: ((", ".intercalate ((first :: others).map quoted)).toList ++ [']']) := by
        simp [quotedList]
      rw [readList, shown]
      split
      case h_1 empty =>
        have none : (", ".intercalate ((first :: others).map quoted)).toList = [] := by
          simpa using (List.cons.inj empty).2
        exact absurd none (intercalate_quoted_ne first others)
      case h_2 rest _ same =>
        obtain rfl := (List.cons.inj same).2
        apply readItems_quoted
        rw [List.length_append, String.length_toList]
        exact Nat.lt_succ_self _
      case h_3 none => exact absurd rfl (none _)

end Gridbook.Text
