import Mathlib
import Gridbook.Text.Percent

/-! # Percent encoding loses nothing

Decoding gives back every text that was encoded, so that no two texts have one encoded form, and
what encoding writes is made of characters that stand for themselves and of escapes.
-/

namespace Gridbook.Text.Percent

theorem hexValue?_hexDigit {n : Nat} (single : n < 16) : hexValue? (hexDigit n) = some n := by
  revert n
  decide

theorem utf8EncodeChar_plain {c : Char} (plain : isPlain c = true) :
    String.utf8EncodeChar c = [UInt8.ofNat c.toNat] := by
  have low : c.val ≤ 127 := by
    simp only [isPlain, Char.isAlphanum, Char.isAlpha, Char.isUpper, Char.isLower, Char.isDigit,
      Bool.or_eq_true, Bool.and_eq_true, decide_eq_true_eq, beq_iff_eq] at plain
    rcases plain with ((((letter | same) | same) | same) | same)
    · grind
    all_goals
      subst same
      decide
  have single : c.utf8Size = 1 := if_pos low
  rw [String.utf8EncodeChar_eq_singleton single]
  rfl

theorem decodeBytes_plain {c : Char} (plain : isPlain c = true) (rest : List Char) :
    decodeBytes (c :: rest) = UInt8.ofNat c.toNat :: decodeBytes rest := by
  have noPercent : c ≠ '%' := by
    rintro rfl
    exact absurd plain (by decide)
  rw [decodeBytes.eq_def]
  split <;> simp_all [utf8EncodeChar_plain]

theorem decodeBytes_escape {high low : Nat} (highSingle : high < 16) (lowSingle : low < 16)
    (rest : List Char) : decodeBytes ('%' :: hexDigit high :: hexDigit low :: rest) =
      UInt8.ofNat (high * 16 + low) :: decodeBytes rest := by
  rw [decodeBytes, hexValue?_hexDigit highSingle, hexValue?_hexDigit lowSingle]

theorem decodeBytes_encodeByte (b : UInt8) (rest : List Char) :
    decodeBytes (encodeByte b ++ rest) = b :: decodeBytes rest := by
  have small : b.toNat < 256 := b.toNat_lt
  unfold encodeByte
  simp only
  split
  case isTrue plain =>
    have code : (Char.ofNat b.toNat).toNat = b.toNat := by
      rw [Char.toNat_ofNat, if_pos (.inl (by omega))]
    rw [List.singleton_append, decodeBytes_plain plain, code, UInt8.ofNat_toNat]
  case isFalse =>
    have split : b.toNat / 16 * 16 + b.toNat % 16 = b.toNat := by omega
    simp only [List.cons_append, List.nil_append]
    rw [decodeBytes_escape (by omega) (by omega), split, UInt8.ofNat_toNat]

theorem decodeBytes_encodeBytes (bytes : List UInt8) : decodeBytes (encodeBytes bytes) = bytes := by
  induction bytes with
  | nil => rfl
  | cons b bytes ih =>
      rw [encodeBytes, List.flatMap_cons, decodeBytes_encodeByte, ← encodeBytes, ih]

theorem decode_encode (s : String) : decode (encode s) = some s := by
  rw [decode, encode, String.toList_ofList, decodeBytes_encodeBytes]
  exact dif_pos s.isValidUTF8

theorem encode_injective : Function.Injective encode := by
  intro a b same
  have back := decode_encode a
  rw [same, decode_encode b] at back
  exact (Option.some.inj back).symm

/-- A text of characters that stand for themselves and of escapes. -/
inductive Encoded : List Char → Prop where
  | nil : Encoded []
  | plain {c : Char} {rest : List Char} (stands : isPlain c = true) (later : Encoded rest) :
      Encoded (c :: rest)
  | escape {high low : Char} {rest : List Char} (first : (hexValue? high).isSome = true)
      (second : (hexValue? low).isSome = true) (later : Encoded rest) :
      Encoded ('%' :: high :: low :: rest)

theorem encoded_encodeByte (b : UInt8) {rest : List Char} (later : Encoded rest) :
    Encoded (encodeByte b ++ rest) := by
  have small : b.toNat < 256 := b.toNat_lt
  unfold encodeByte
  simp only
  split
  case isTrue plain => exact .plain plain later
  case isFalse =>
    apply Encoded.escape _ _ later
    · rw [hexValue?_hexDigit (by omega)]
      rfl
    · rw [hexValue?_hexDigit (by omega)]
      rfl

theorem encoded_encode (s : String) : Encoded (encode s).toList := by
  rw [encode, String.toList_ofList]
  induction s.toUTF8.data.toList with
  | nil => exact .nil
  | cons b bytes ih => exact encoded_encodeByte b ih

/-- Nothing else is written, in particular no slash. -/
theorem Encoded.not_mem {text : List Char} (encoded : Encoded text) {c : Char}
    (special : isPlain c = false) (percent : c ≠ '%') (digit : hexValue? c = none) : c ∉ text := by
  induction encoded with
  | nil => exact List.not_mem_nil
  | plain stands later ih =>
      refine List.not_mem_cons_of_ne_of_not_mem ?_ ih
      rintro rfl
      exact absurd stands (by simp [special])
  | escape first second later ih =>
      have apart : ∀ {d : Char}, (hexValue? d).isSome = true → c ≠ d := by
        rintro d some rfl
        exact absurd some (by simp [digit])
      apply List.not_mem_cons_of_ne_of_not_mem percent
      apply List.not_mem_cons_of_ne_of_not_mem (apart first)
      exact List.not_mem_cons_of_ne_of_not_mem (apart second) ih

theorem utf8Size_plain {c : Char} (plain : isPlain c = true) : c.utf8Size = 1 := by
  have length := congrArg List.length (utf8EncodeChar_plain plain)
  rwa [String.length_utf8EncodeChar] at length

theorem utf8Size_hexDigit {n : Nat} (single : n < 16) : (hexDigit n).utf8Size = 1 := by
  revert n
  decide

theorem utf8Len_encodeByte (b : UInt8) : String.utf8Len (encodeByte b) ≤ 3 := by
  have small : b.toNat < 256 := b.toNat_lt
  unfold encodeByte
  simp only
  split
  case isTrue plain => simp [utf8Size_plain plain]
  case isFalse =>
    have high := utf8Size_hexDigit (n := b.toNat / 16) (by omega)
    have low := utf8Size_hexDigit (n := b.toNat % 16) (by omega)
    simp [high, low]
    decide

theorem utf8Len_encodeBytes (bytes : List UInt8) :
    String.utf8Len (encodeBytes bytes) ≤ 3 * bytes.length := by
  induction bytes with
  | nil => simp [encodeBytes]
  | cons b bytes ih =>
      have first := utf8Len_encodeByte b
      rw [encodeBytes, List.flatMap_cons, ← encodeBytes, String.utf8Len_append, List.length_cons]
      omega

theorem utf8ByteSize_encode_le (s : String) : (encode s).utf8ByteSize ≤ 3 * s.utf8ByteSize := by
  rw [encode, String.utf8ByteSize_ofList]
  exact utf8Len_encodeBytes _

end Gridbook.Text.Percent
